import EdaGym.Drivers.Qualification
import Mathlib.Data.List.Nodup
import Mathlib.Data.List.Perm.Basic

/-!
# When the evidence of a run is accepted

The evidence that a run leaves names its artifacts after the fixture and the commands, so its
identities never clash, and everything the validator compares with the fixture agrees. What is left
of the validator is what it prescribes for the failure of the run.
-/

namespace EdaGym

/-! ### Names -/

lemma map_mapIdx_eq_map_range {α β γ : Type*} {g : Nat → α → β} {p : β → γ} {f : Nat → γ}
    (h : ∀ i a, p (g i a) = f i) (xs : List α) :
    (xs.mapIdx g).map p = (List.range xs.length).map f := by
  apply List.ext_getElem
  · simp
  · intro i h₁ h₂
    simp [h]

lemma commandLog_append (index : Nat) (s t : String) :
    commandLog index s ++ t = commandLog index (s ++ t) := by
  simp [commandLog, String.append_assoc]

lemma qualificationArtifactId_append (fixtureId : Identifier) (s t : String) :
    qualificationArtifactId fixtureId s ++ t = qualificationArtifactId fixtureId (s ++ t) := by
  simp [qualificationArtifactId, String.append_assoc]

/-- The logs that `count` commands leave under each of the suffixes. -/
def logNames (count : Nat) (suffixes : List String) : List String :=
  suffixes.flatMap fun suffix => (List.range count).map fun index => commandLog index suffix

lemma mem_logNames {count : Nat} {suffixes : List String} {name : String} :
    name ∈ logNames count suffixes ↔
      ∃ suffix ∈ suffixes, ∃ index < count, name = commandLog index suffix := by
  simp [logNames, eq_comm]

lemma logNames_nodup (count : Nat) {suffixes : List String} (h : suffixes.Nodup) :
    (logNames count suffixes).Nodup := by
  rw [logNames, List.nodup_flatMap]
  constructor
  · intro suffix _
    exact List.nodup_range.map fun i j hij => (commandLog_inj.mp hij).1
  · refine h.imp ?_
    intro s t hst name hs ht
    obtain ⟨i, -, rfl⟩ := List.mem_map.mp hs
    obtain ⟨j, -, hij⟩ := List.mem_map.mp ht
    exact hst (commandLog_inj.mp hij).2.symm

/-- The suffixes of the logs of a command, and of their raw forms. -/
def logSuffixes : List String := ["stdout", "stderr"]

def rawSuffixes : List String := ["stdout_raw", "stderr_raw"]

lemma reserved_of_mem_logNames {count : Nat} {name : String}
    (h : name ∈ logNames count (logSuffixes ++ rawSuffixes)) : ReservedName name := by
  obtain ⟨suffix, hsuffix, index, -, rfl⟩ := mem_logNames.mp h
  simp only [logSuffixes, rawSuffixes, List.cons_append, List.nil_append, List.mem_cons,
    List.not_mem_nil, or_false] at hsuffix
  rcases hsuffix with rfl | rfl | rfl | rfl
  · exact ⟨index, .stdout, Or.inl rfl⟩
  · exact ⟨index, .stderr, Or.inl rfl⟩
  · exact ⟨index, .stdout, Or.inr rfl⟩
  · exact ⟨index, .stderr, Or.inr rfl⟩

lemma manifest_ne (fixtureId : Identifier) (localId : String) :
    ROOTLESS_PACKAGE_MANIFEST_ID ≠ qualificationArtifactId fixtureId localId := by
  intro h
  have hdot : '.' ∈ (qualificationArtifactId fixtureId localId).toList := by
    simp [qualificationArtifactId]
  rw [← h] at hdot
  revert hdot
  decide

namespace QualificationCall

open QualificationEvidence

variable (call : QualificationCall) (ids : QualificationIdentities) (role : FixtureRole)

/-- The name of an artifact of this case. -/
def caseName (localId : String) : Identifier :=
  qualificationArtifactId (call.fixture.caseId role) localId

lemma caseName_inj {a b : String} : call.caseName role a = call.caseName role b ↔ a = b :=
  qualificationArtifactId_inj

/-- The declared outputs that are there. -/
def presentNames (files : List (String × WorkspaceFile)) : List String :=
  (call.fixture.outputs.filter fun declaration => (fileAt files declaration).isSome).map
    (·.logicalId)

/-- The fixture-local names of what a run of `count` commands leaves. -/
def outputNames (count : Nat) (files : List (String × WorkspaceFile)) : List String :=
  logNames count logSuffixes ++ call.presentNames files

/-! ### The records of what is stored -/

variable {call} in
lemma mem_presentOutputs {files : List (String × WorkspaceFile)}
    {present : FixtureOutput × WorkspaceFile} : present ∈ call.presentOutputs files ↔
      present.1 ∈ call.fixture.outputs ∧ fileAt files present.1 = some present.2 := by
  obtain ⟨declaration, file⟩ := present
  simp only [presentOutputs, List.mem_filterMap, Option.map_eq_some_iff, Prod.mk.injEq]
  constructor
  · rintro ⟨_, hmem, _, hfile, rfl, rfl⟩
    exact ⟨hmem, hfile⟩
  · rintro ⟨hmem, hfile⟩
    exact ⟨declaration, hmem, file, hfile, rfl, rfl⟩

/-- The record of an artifact of this case that carries evidence. -/
def evidenceRecord (localId : String) (mediaType : MediaType) (content : Bytes) : ArtifactRecord :=
  storedRecord ids.toFixtureIdentities .evidence call.artifactDisclosure
    (call.caseName role localId) mediaType content

def inputRecords (inputs : List FixtureInput) : List ArtifactRecord :=
  inputs.map fun source =>
    call.evidenceRecord ids role source.logicalId source.mediaType source.content

def manifestRecords : List ArtifactRecord :=
  call.installation.rootlessImageRuntime.toList.map fun runtime =>
    storedRecord ids.toFixtureIdentities .evidence call.artifactDisclosure
      ROOTLESS_PACKAGE_MANIFEST_ID "text/tab-separated-values" runtime.packageManifest

def logRecords (stream : LogStream) (logs : List Bytes) : List ArtifactRecord :=
  logs.mapIdx fun index content =>
    call.evidenceRecord ids role (commandLog index stream.value) "text/plain"
      (retainedLog call.fixture.logProjection content)

def declaredRecords (files : List (String × WorkspaceFile)) : List ArtifactRecord :=
  (call.presentOutputs files).map fun present =>
    call.evidenceRecord ids role present.1.logicalId present.1.mediaType present.2.content

def outputRecords (run : FixtureRun) (files : List (String × WorkspaceFile)) :
    List ArtifactRecord :=
  call.logRecords ids role .stdout run.stdoutFiles ++
    call.logRecords ids role .stderr run.stderrFiles ++ call.declaredRecords ids role files

def rawLogRecords (stream : LogStream) (logs : List Bytes) : List ArtifactRecord :=
  logs.mapIdx fun index content =>
    storedRecord ids.toFixtureIdentities .diagnostic PROTECTED_RAW_DISCLOSURE
      (call.caseName role (commandLog index stream.value) ++ "_raw") "text/plain" content

def diagnosticRecords (run : FixtureRun) : List ArtifactRecord :=
  call.rawLogRecords ids role .stdout run.stdoutFiles ++
    call.rawLogRecords ids role .stderr run.stderrFiles

lemma idsOf_inputRecords {inputs : List FixtureInput} :
    idsOf (call.inputRecords ids role inputs) =
      (inputs.map (·.logicalId)).map (call.caseName role) := by
  rw [idsOf, inputRecords, List.map_map, List.map_map]
  rfl

lemma idsOf_logRecords (stream : LogStream) (logs : List Bytes) :
    idsOf (call.logRecords ids role stream logs) =
      ((List.range logs.length).map fun index => commandLog index stream.value).map
        (call.caseName role) := by
  rw [idsOf, logRecords, List.map_map]
  apply map_mapIdx_eq_map_range
  intro index _
  rfl

lemma idsOf_rawLogRecords (stream : LogStream) (logs : List Bytes) :
    idsOf (call.rawLogRecords ids role stream logs) =
      ((List.range logs.length).map fun index => commandLog index (stream.value ++ "_raw")).map
        (call.caseName role) := by
  rw [idsOf, rawLogRecords, List.map_map]
  apply map_mapIdx_eq_map_range
  intro index _
  simp only [storedRecord, caseName, qualificationArtifactId_append, commandLog_append]
  rfl

lemma idsOf_declaredRecords (files : List (String × WorkspaceFile)) :
    idsOf (call.declaredRecords ids role files) =
      (call.presentNames files).map (call.caseName role) := by
  rw [idsOf, declaredRecords, presentNames, presentOutputs, List.map_map, List.map_map]
  induction call.fixture.outputs with
  | nil => rfl
  | cons declaration outputs ih =>
    cases hfile : fileAt files declaration with
    | none => simpa [hfile] using ih
    | some file => simpa [hfile, evidenceRecord, storedRecord] using ih

variable {call ids role} {run : FixtureRun} {count : Nat} {files : List (String × WorkspaceFile)}

lemma idsOf_append (xs ys : List ArtifactRecord) : idsOf (xs ++ ys) = idsOf xs ++ idsOf ys :=
  List.map_append

lemma idsOf_outputRecords (hlogs : run.Logged count) :
    idsOf (call.outputRecords ids role run files) =
      (call.outputNames count files).map (call.caseName role) := by
  rw [outputRecords, idsOf_append, idsOf_append, idsOf_logRecords, idsOf_logRecords,
    idsOf_declaredRecords, hlogs.1, hlogs.2]
  simp [outputNames, logNames, logSuffixes, LogStream.value]

lemma idsOf_diagnosticRecords (hlogs : run.Logged count) :
    idsOf (call.diagnosticRecords ids role run) =
      (logNames count rawSuffixes).map (call.caseName role) := by
  rw [diagnosticRecords, idsOf_append, idsOf_rawLogRecords, idsOf_rawLogRecords, hlogs.1, hlogs.2]
  simp [logNames, rawSuffixes, LogStream.value]

/-! ### What the callers of an execution establish -/

/-- A canonical fixture with a probed installation, a sufficient grant, a store that may keep its
logs, the assets it names, and for a commercial tool its authorization. -/
structure Bound (call : QualificationCall) (ids : QualificationIdentities) : Prop where
  canonical : call.fixture.Canonical
  tool : call.definition.toolId = call.fixture.toolId
  definition : call.installation.definition = call.definition
  version : call.probe.toolVersion = some call.installation.versionLabel
  attestation : call.probe.deploymentAttestationDigest =
    some (ids.attestationDigest call.installation.deploymentIdentity)
  probed : call.probe.toolId = call.definition.toolId ∧ call.probe.vendor = call.definition.vendor ∧
    call.probe.driverDigest = call.definition.driverDigest
  capability : call.fixture.capability ∈ call.probe.capabilities
  admitted : call.checkGrant = .ok ⟨⟩
  assets : SameSet (call.restrictedAssets.map Prod.fst)
    (call.fixture.restrictedAssets.map (·.assetId))
  siteContainer : call.siteContainer = true →
    call.installation.siteContainerRuntime = true ∧
      call.deploymentConfiguration = some .siteContainer
  runtime : call.installation.executableInvocationMode = .rootlessImage →
    call.installation.rootlessImageRuntime ≠ none
  manifest : ∀ runtime ∈ call.installation.rootlessImageRuntime,
    runtime.packageManifestDigest = ids.digestBytes runtime.packageManifest
  license : call.licenseAuthorization.isSome ↔ call.definition.vendor ≠ .openSource
  disclosure : call.definition.vendor ≠ .openSource →
    call.artifactDisclosure = PROTECTED_RAW_DISCLOSURE
  receipt : ∀ receipt ∈ call.licenseAuthorization,
    receipt.toolId = call.definition.toolId ∧ receipt.vendor = call.definition.vendor ∧
      receipt.capability = call.fixture.capability ∧
        receipt.driverDigest = call.definition.driverDigest ∧
          call.fixture.digest ids.toFixtureIdentities = .ok receipt.fixtureDigest

/-! ### Identities never clash -/

lemma presentNames_sublist (call : QualificationCall) (files : List (String × WorkspaceFile)) :
    (call.presentNames files).Sublist (call.fixture.outputs.map (·.logicalId)) :=
  List.filter_sublist.map _

/-- The names of the files of a fixture and of the logs of its commands are all different. -/
lemma names_nodup (count : Nat) (files : List (String × WorkspaceFile))
    (hcanonical : call.fixture.Canonical) {suffixes : List String}
    (hnodup : suffixes.Nodup) (hsub : suffixes ⊆ logSuffixes ++ rawSuffixes) :
    ((call.fixture.inputs.map (·.logicalId) ++ call.fixture.restrictedAssets.map (·.logicalId) ++
      call.presentNames files) ++ logNames count suffixes).Nodup := by
  have hfacts := hcanonical.facts
  have hpresent := presentNames_sublist call files
  rw [List.nodup_append', List.nodup_append', List.nodup_append']
  refine ⟨⟨⟨hfacts.inputIds_nodup, hfacts.assetIds_nodup, ?_⟩,
    hfacts.outputIds_nodup.sublist hpresent, ?_⟩, logNames_nodup count hnodup, ?_⟩
  · intro name hin hasset
    exact hfacts.ids_disjoint ⟨name, hin, List.mem_append_left _ hasset⟩
  · intro name hname hout
    rcases List.mem_append.mp hname with hin | hasset
    · exact hfacts.ids_disjoint ⟨name, hin, List.mem_append_right _ (hpresent.subset hout)⟩
    · exact hfacts.assets_disjoint ⟨name, hasset, hpresent.subset hout⟩
  · intro name hname hlog
    obtain ⟨suffix, hsuffix, index, hindex, rfl⟩ := mem_logNames.mp hlog
    refine hcanonical.unreserved _ ?_
      (reserved_of_mem_logNames (mem_logNames.mpr ⟨suffix, hsub hsuffix, index, hindex, rfl⟩))
    rcases List.mem_append.mp hname with hname | hout
    · exact List.mem_append_left _ hname
    · exact List.mem_append_right _ (hpresent.subset hout)

/-! ### The evidence of a run -/

/-- What an execution reads of its fixture. -/
structure RecordedCase (call : QualificationCall) (ids : QualificationIdentities)
    (role : FixtureRole) where
  inputs : List FixtureInput
  claimId : Identifier
  pairDigest : Digest
  inputsFor : call.fixture.inputsFor role = .ok inputs
  shape : QualificationFixture.inputShape inputs =
    QualificationFixture.inputShape call.fixture.inputs
  snapshotFor : call.fixture.snapshotFor ids.toFixtureIdentities role =
    .ok (call.fixture.rawSnapshot ids.toFixtureIdentities role inputs claimId)
  digest : call.fixture.digest ids.toFixtureIdentities = .ok pairDigest

lemma Bound.recordedCase (h : call.Bound ids) (role : FixtureRole) :
    Nonempty (RecordedCase call ids role) := by
  obtain ⟨inputs, claimId, hinputs, hshape, -, hsnapshot⟩ :=
    h.canonical.snapshotFor ids.toFixtureIdentities role
  obtain ⟨_, _, -, -, -, hacceptance⟩ :=
    h.canonical.snapshotFor ids.toFixtureIdentities .acceptance
  obtain ⟨_, _, -, -, -, hrejection⟩ :=
    h.canonical.snapshotFor ids.toFixtureIdentities .rejection
  have hdigest : ∃ pairDigest,
      call.fixture.digest ids.toFixtureIdentities = .ok pairDigest := by
    rw [QualificationFixture.digest, hacceptance, ok_bind, if_neg h.canonical.paired, hrejection]
    exact ⟨_, rfl⟩
  obtain ⟨pairDigest, hdigest⟩ := hdigest
  exact ⟨⟨inputs, claimId, pairDigest, hinputs, hshape, hsnapshot, hdigest⟩⟩

namespace RecordedCase

variable (c : RecordedCase call ids role) (run : FixtureRun) (b : FixtureBehaviour)

def snapshot : QualificationFixtureSnapshot :=
  call.fixture.rawSnapshot ids.toFixtureIdentities role c.inputs c.claimId

def raw : QualificationEvidence :=
  call.rawEvidence ids role c.snapshot c.pairDigest (call.inputRecords ids role c.inputs)
    (call.manifestRecords ids) (call.outputRecords ids role run b.files)
    (if (call.verdict role run b.files).1.isSome && call.fixture.logProjection.isSome then
      call.diagnosticRecords ids role run
    else []) run b

/-- The evidence with its lists normalised. -/
def evidence : QualificationEvidence :=
  { c.raw run b with
    inputArtifacts := sortedBy (·.logicalId) (call.inputRecords ids role c.inputs)
    deploymentArtifacts := sortedBy (·.logicalId) (call.manifestRecords ids)
    restrictedAssets := sortedBy (·.logicalId) (call.assetEvidence role)
    outputArtifacts := sortedBy (·.logicalId) (call.outputRecords ids role run b.files)
    diagnosticArtifacts := sortedBy (·.logicalId) (c.raw run b).diagnosticArtifacts }

variable {c run b}

lemma idsOf_inputs : idsOf (call.inputRecords ids role c.inputs) =
    (call.fixture.inputs.map (·.logicalId)).map (call.caseName role) := by
  rw [idsOf_inputRecords, QualificationFixture.map_logicalId_of_shape c.shape]

lemma assetEvidence_ids : (call.assetEvidence role).map (·.logicalId) =
    (call.fixture.restrictedAssets.map (·.logicalId)).map (call.caseName role) := by
  simp only [assetEvidence, QualificationFixture.assetSnapshots, List.map_map]
  rfl

/-- The suffixes of the raw logs that the evidence of a run carries. -/
def diagnosticSuffixes (call : QualificationCall) (failure : Option QualificationFailure) :
    List String :=
  if failure.isSome && call.fixture.logProjection.isSome then rawSuffixes else []

lemma idsOf_diagnostics (hlogs : run.Logged count) :
    idsOf (c.raw run b).diagnosticArtifacts =
      (logNames count (diagnosticSuffixes call (call.verdict role run b.files).1)).map
        (call.caseName role) := by
  have hdef : (c.raw run b).diagnosticArtifacts =
      if (call.verdict role run b.files).1.isSome && call.fixture.logProjection.isSome then
        call.diagnosticRecords ids role run
      else [] := rfl
  rw [hdef, diagnosticSuffixes]
  split_ifs with hcond
  · exact idsOf_diagnosticRecords hlogs
  · simp [idsOf, logNames]

/-- The identities of a list of artifacts and assets, in the validator's order and grouped. -/
lemma perm_identities (inputs deployments logs present diagnostics assets : List Identifier) :
    (inputs ++ deployments ++ (logs ++ present) ++ diagnostics ++ assets).Perm
      (deployments ++ (inputs ++ assets ++ present ++ (logs ++ diagnostics))) := by
  rw [List.perm_iff_count]
  intro name
  simp only [List.count_append]
  omega

lemma diagnosticSuffixes_sub (call : QualificationCall) (failure : Option QualificationFailure) :
    diagnosticSuffixes call failure ⊆ rawSuffixes ∧
      (logSuffixes ++ diagnosticSuffixes call failure).Nodup := by
  rw [diagnosticSuffixes]
  split_ifs <;> decide

lemma logNames_append (count : Nat) (suffixes suffixes' : List String) :
    logNames count (suffixes ++ suffixes') = logNames count suffixes ++ logNames count suffixes' :=
  List.flatMap_append

lemma idsOf_deployment : idsOf (call.manifestRecords ids) =
    if call.installation.rootlessImageRuntime.isSome then
      [ROOTLESS_PACKAGE_MANIFEST_ID] else [] := by
  rw [manifestRecords]
  cases call.installation.rootlessImageRuntime <;> rfl

lemma raw_identities_nodup (h : call.Bound ids) (hlogs : run.Logged count) :
    (idsOf (call.inputRecords ids role c.inputs) ++
      idsOf (call.manifestRecords ids) ++
        idsOf (call.outputRecords ids role run b.files) ++
          idsOf (c.raw run b).diagnosticArtifacts ++
            (call.assetEvidence role).map (·.logicalId)).Nodup := by
  obtain ⟨hsub, hnodup⟩ := diagnosticSuffixes_sub call (call.verdict role run b.files).1
  have hnames := names_nodup count b.files h.canonical hnodup
    (List.append_subset.mpr ⟨List.subset_append_left _ _,
      fun _ hsuffix => List.mem_append_right _ (hsub hsuffix)⟩)
  rw [idsOf_inputs, idsOf_outputRecords hlogs, idsOf_diagnostics hlogs, assetEvidence_ids,
    outputNames, List.map_append, (perm_identities _ _ _ _ _ _).nodup_iff, ← List.map_append,
    ← List.map_append, ← List.map_append, ← logNames_append, ← List.map_append,
    List.nodup_append', idsOf_deployment]
  refine ⟨?_, hnames.map fun a b => (call.caseName_inj role).mp, ?_⟩
  · split_ifs <;> simp
  · intro name hmanifest hname
    obtain ⟨localId, -, rfl⟩ := List.mem_map.mp hname
    split_ifs at hmanifest
    · exact manifest_ne _ _ (List.mem_singleton.mp hmanifest).symm
    · cases hmanifest

/-- The normalisation of the lists succeeds. -/
lemma build_raw (h : call.Bound ids) (hlogs : run.Logged count) :
    (c.raw run b).build ids =
      (c.evidence run b).validateOutcome ids >>= fun _ => .ok (c.evidence run b) := by
  have hall := raw_identities_nodup (c := c) (b := b) h hlogs
  rw [List.nodup_append', List.nodup_append', List.nodup_append', List.nodup_append'] at hall
  obtain ⟨⟨⟨⟨hinputs, hdeployment, -⟩, houtputs, -⟩, hdiagnostics, -⟩, hassets, -⟩ := hall
  have htriples : ((call.assetEvidence role).map
      fun item => (item.logicalId, item.assetId, item.path)).Nodup :=
    List.Nodup.of_map Prod.fst (by rw [List.map_map]; exact hassets)
  have hrecords : ∀ value : List ArtifactRecord, (idsOf value).Nodup →
      normalizeArtifacts value = .ok (sortedBy (·.logicalId) value) := by
    intro value hvalue
    rw [normalizeArtifacts, raiseIf_bind_eq_ok]
    exact ⟨not_not.mpr hvalue, rfl⟩
  rw [build]
  show (normalizeArtifacts (call.inputRecords ids role c.inputs) >>= fun _ => _) = _
  rw [hrecords _ hinputs, ok_bind]
  show (normalizeArtifacts (call.manifestRecords ids) >>= fun _ => _) = _
  rw [hrecords _ hdeployment, ok_bind]
  show (normalizeRestrictedAssets (call.assetEvidence role) >>= fun _ => _) = _
  rw [normalizeRestrictedAssets, raiseIf, if_neg (not_not.mpr htriples)]
  show (normalizeArtifacts (call.outputRecords ids role run b.files) >>= fun _ => _) = _
  rw [hrecords _ houtputs, ok_bind]
  show (normalizeArtifacts (c.raw run b).diagnosticArtifacts >>= fun _ => _) = _
  rw [hrecords _ hdiagnostics, ok_bind]
  rfl

end RecordedCase

end QualificationCall

end EdaGym
