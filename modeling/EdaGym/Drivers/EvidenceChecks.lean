import EdaGym.Drivers.EvidenceShape

/-!
# The checks of the evidence of a run

Every check that compares the evidence with its fixture, its deployment or its authorization
passes. What remains is the check of the outcome, which is stated here on the run itself.
-/

namespace EdaGym

namespace QualificationCall

open QualificationEvidence

variable {call : QualificationCall} {ids : QualificationIdentities} {role : FixtureRole}
  {run : FixtureRun} {count : Nat} {b : FixtureBehaviour}

namespace RecordedCase

variable {c : RecordedCase call ids role}

/-! ### Records -/

variable {record : ArtifactRecord}

lemma mem_evidenceArtifacts :
    record ∈ (c.evidence run b).evidenceArtifacts ↔
      record ∈ call.inputRecords ids role c.inputs ∨
        record ∈ call.manifestRecords ids ∨
          record ∈ call.outputRecords ids role run b.files := by
  simp [evidenceArtifacts, evidence]

lemma evidence_of_mem
    (h : record ∈ (c.evidence run b).evidenceArtifacts) :
    record.artifactClass = .evidence ∧ record.disclosedAs call.artifactDisclosure := by
  rcases mem_evidenceArtifacts.mp h with h | h | h
  · obtain ⟨source, -, rfl⟩ := List.mem_map.mp h
    exact ⟨rfl, rfl⟩
  · obtain ⟨runtime, -, rfl⟩ := List.mem_map.mp h
    exact ⟨rfl, rfl⟩
  · rw [outputRecords, List.mem_append, List.mem_append] at h
    rcases h with (h | h) | h
    · obtain ⟨_, _, rfl⟩ := List.mem_mapIdx.mp h
      exact ⟨rfl, rfl⟩
    · obtain ⟨_, _, rfl⟩ := List.mem_mapIdx.mp h
      exact ⟨rfl, rfl⟩
    · obtain ⟨present, -, rfl⟩ := List.mem_map.mp h
      exact ⟨rfl, rfl⟩

lemma mem_diagnosticArtifacts :
    record ∈ (c.evidence run b).diagnosticArtifacts ↔
      record ∈ (c.raw run b).diagnosticArtifacts := by
  simp [evidence]

lemma diagnostic_of_mem
    (h : record ∈ (c.evidence run b).diagnosticArtifacts) :
    record.artifactClass = .diagnostic ∧ record.mediaType = "text/plain" ∧
      record.disclosedAs PROTECTED_RAW_DISCLOSURE := by
  have hraw : record ∈ if (call.verdict role run b.files).1.isSome &&
      call.fixture.logProjection.isSome then call.diagnosticRecords ids role run else [] :=
    mem_diagnosticArtifacts.mp h
  split_ifs at hraw
  · rw [diagnosticRecords, List.mem_append] at hraw
    rcases hraw with hraw | hraw
    · obtain ⟨_, _, rfl⟩ := List.mem_mapIdx.mp hraw
      exact ⟨rfl, rfl, rfl⟩
    · obtain ⟨_, _, rfl⟩ := List.mem_mapIdx.mp hraw
      exact ⟨rfl, rfl, rfl⟩
  · cases hraw

/-! ### Identities -/

lemma idsOf_sorted_perm (records : List ArtifactRecord) :
    (idsOf (sortedBy (·.logicalId) records)).Perm (idsOf records) :=
  (sortedBy_perm _ records).map _

variable {name : Identifier}

lemma mem_outputIds (hlogs : run.Logged count) :
    name ∈ (c.evidence run b).outputIds ↔
      ∃ localId ∈ call.outputNames count b.files, name = call.caseName role localId := by
  have hperm := idsOf_sorted_perm (call.outputRecords ids role run b.files)
  rw [idsOf_outputRecords hlogs] at hperm
  refine hperm.mem_iff.trans (List.mem_map.trans ?_)
  simp only [eq_comm]

lemma mem_diagnosticIds (hlogs : run.Logged count) :
    name ∈ (c.evidence run b).diagnosticIds ↔
      ∃ localId ∈ logNames count
        (diagnosticSuffixes call (call.verdict role run b.files).1),
        name = call.caseName role localId := by
  have hperm := idsOf_sorted_perm (c.raw run b).diagnosticArtifacts
  rw [idsOf_diagnostics hlogs] at hperm
  refine hperm.mem_iff.trans (List.mem_map.trans ?_)
  simp only [eq_comm]

lemma mem_logIds {bound : Nat} :
    name ∈ (c.evidence run b).logIds bound ↔
      ∃ localId ∈ logNames bound logSuffixes, name = call.caseName role localId := by
  simp only [logIds, List.mem_flatMap, List.mem_range, List.mem_map, mem_logNames]
  constructor
  · rintro ⟨index, hindex, stream, -, rfl⟩
    refine ⟨commandLog index stream.value, ⟨stream.value, ?_, index, hindex, rfl⟩, rfl⟩
    cases stream <;> decide
  · rintro ⟨_, ⟨suffix, hsuffix, index, hindex, rfl⟩, rfl⟩
    simp only [logSuffixes, List.mem_cons, List.not_mem_nil, or_false] at hsuffix
    rcases hsuffix with rfl | rfl
    · exact ⟨index, hindex, .stdout, by decide, rfl⟩
    · exact ⟨index, hindex, .stderr, by decide, rfl⟩

lemma inputs_ne_nil (hcanonical : call.fixture.Canonical) : c.inputs ≠ [] := by
  intro hnil
  have hlength := congrArg List.length c.shape
  rw [hnil] at hlength
  simp only [QualificationFixture.inputShape, List.map_nil, List.length_nil, List.length_map]
    at hlength
  exact hcanonical.facts.inputs_ne_nil (List.length_eq_zero_iff.mp hlength.symm)

lemma sortedBy_ne_nil {α : Type} {key : α → String} {xs : List α} (h : xs ≠ []) :
    sortedBy key xs ≠ [] := by
  intro hnil
  have hperm := sortedBy_perm key xs
  rw [hnil] at hperm
  exact h hperm.nil_eq.symm

lemma outputArtifacts_ne_nil (hpos : 0 < count) (hlogs : run.Logged count) :
    (c.evidence run b).outputArtifacts ≠ [] := by
  have hmem : call.caseName role (commandLog 0 "stdout") ∈ (c.evidence run b).outputIds :=
    (mem_outputIds hlogs).mpr ⟨_, List.mem_append_left _
      (mem_logNames.mpr ⟨"stdout", by decide, 0, hpos, rfl⟩), rfl⟩
  obtain ⟨record, hrecord, -⟩ := List.mem_map.mp hmem
  exact List.ne_nil_of_mem hrecord

lemma checkIdentities_evidence (h : call.Bound ids) (hpos : 0 < count) (hlogs : run.Logged count) :
    (c.evidence run b).checkIdentities = .ok ⟨⟩ := by
  have hnodup := raw_identities_nodup (c := c) (b := b) h hlogs
  have hperm : (idsOf ((c.evidence run b).evidenceArtifacts ++
      (c.evidence run b).diagnosticArtifacts) ++
        (c.evidence run b).restrictedAssets.map (·.logicalId)).Perm
          (idsOf (call.inputRecords ids role c.inputs) ++
            idsOf (call.manifestRecords ids) ++
              idsOf (call.outputRecords ids role run b.files) ++
                idsOf (c.raw run b).diagnosticArtifacts ++
                  (call.assetEvidence role).map (·.logicalId)) := by
    rw [evidenceArtifacts, idsOf_append, idsOf_append, idsOf_append]
    exact ((((idsOf_sorted_perm _).append (idsOf_sorted_perm _)).append
      (idsOf_sorted_perm _)).append (idsOf_sorted_perm _)).append
        ((sortedBy_perm _ (call.assetEvidence role)).map _)
  have hinputs : (c.evidence run b).inputArtifacts ≠ [] :=
    sortedBy_ne_nil fun hnil =>
      inputs_ne_nil (c := c) h.canonical (List.map_eq_nil_iff.mp hnil)
  have houtputs := outputArtifacts_ne_nil (c := c) (b := b) hpos hlogs
  simp only [checkIdentities, raiseIf_bind_eq_ok, raiseIf_eq_ok]
  refine ⟨not_or.mpr ⟨hinputs, houtputs⟩, not_not.mpr (hperm.nodup_iff.mpr hnodup), ?_, ?_⟩
  · have htool := h.tool
    simp only [evidence, raw, rawEvidence, snapshot, QualificationFixture.rawSnapshot,
      QualificationFixture.caseId, htool, ne_eq, not_true_eq_false, or_self, not_false_eq_true]
  · rw [not_or]
    refine ⟨?_, ?_⟩
    · rintro ⟨record, hrecord, hclass⟩
      exact hclass (evidence_of_mem hrecord).1
    · rintro ⟨record, hrecord, hclass⟩
      exact hclass (diagnostic_of_mem hrecord).1

/-! ### Deployment, authorization and inputs -/

lemma toolVersion_evidence (h : call.Bound ids) :
    (c.evidence run b).toolVersion = call.installation.versionLabel := by
  simp only [evidence, raw, rawEvidence, h.version, ite_self]

lemma deploymentIdentity_evidence (h : call.Bound ids) :
    (c.evidence run b).deploymentIdentity = call.installation.deploymentIdentity := by
  rw [QualificationEvidence.deploymentIdentity, toolVersion_evidence h,
    ResolvedInstallation.deploymentIdentity, h.definition]
  rfl

lemma checkManifest_evidence (h : call.Bound ids) :
    (c.evidence run b).checkManifest = .ok ⟨⟩ := by
  have hdigest : (c.evidence run b).packageManifestDigest =
      call.installation.rootlessImageRuntime.map (·.packageManifestDigest) := rfl
  have hartifacts : (c.evidence run b).deploymentArtifacts =
      sortedBy (·.logicalId) (call.manifestRecords ids) := rfl
  rw [checkManifest, hdigest, hartifacts, manifestRecords]
  cases hruntime : call.installation.rootlessImageRuntime with
  | none =>
    refine raiseIf_eq_ok.mpr (not_not.mpr ?_)
    rfl
  | some runtime =>
    refine raiseIf_eq_ok.mpr (not_not.mpr ?_)
    exact ⟨_, List.mem_singleton_self _, rfl, rfl, (h.manifest runtime hruntime).symm, rfl⟩

lemma checkDeployment_evidence (h : call.Bound ids) :
    (c.evidence run b).checkDeployment ids = .ok ⟨⟩ := by
  have hprotected : ∀ record ∈ (c.evidence run b).evidenceArtifacts ++
      (c.evidence run b).diagnosticArtifacts, call.definition.vendor ≠ .openSource →
        record.disclosedAs PROTECTED_RAW_DISCLOSURE := by
    intro record hrecord hvendor
    rcases List.mem_append.mp hrecord with hrecord | hrecord
    · exact h.disclosure hvendor ▸ (evidence_of_mem hrecord).2
    · exact (diagnostic_of_mem hrecord).2.2
  have hreceipt : ∀ receipt ∈ call.licenseAuthorization,
      receipt.fixtureDigest = c.pairDigest := by
    intro receipt hreceipt
    have hdigest := (h.receipt receipt hreceipt).2.2.2.2
    rw [c.digest] at hdigest
    exact (Except.ok.inj hdigest).symm
  simp only [checkDeployment, bind_eq_ok, raiseIf_eq_ok, exists_const]
  refine ⟨not_not.mpr h.license, not_not.mpr ?_, ⟨⟩, checkManifest_evidence h, ?_, ?_⟩
  · rw [deploymentIdentity_evidence h]
    rfl
  · rintro ⟨hvendor, record, hrecord, hdisclosed⟩
    exact hdisclosed (hprotected record hrecord hvendor)
  · rintro ⟨receipt, hmem, hdiffers⟩
    obtain ⟨htool, hvendor, hcapability, hdriver, -⟩ := h.receipt receipt hmem
    rcases hdiffers with hdiffers | hdiffers | hdiffers | hdiffers | hdiffers
    · exact hdiffers htool
    · exact hdiffers hvendor
    · exact hdiffers hcapability
    · exact hdiffers hdriver
    · exact hdiffers (hreceipt receipt hmem)

lemma SameSet.of_eq_of_perm {α : Type} {xs ys zs : List α} (hperm : xs.Perm ys) (h : ys = zs) :
    SameSet xs zs := by
  rw [← h]
  exact ⟨fun x hx => hperm.subset hx, fun y hy => hperm.symm.subset hy⟩

lemma checkInputs_evidence
    (hexit : run.exitCodes.length ≤ call.fixture.invocations.length) :
    (c.evidence run b).checkInputs = .ok ⟨⟩ := by
  simp only [checkInputs, raiseIf_bind_eq_ok, raiseIf_eq_ok, not_not, not_lt]
  refine ⟨?_, ?_, hexit⟩
  · apply SameSet.of_eq_of_perm ((sortedBy_perm _ (call.inputRecords ids role c.inputs)).map _)
    show _ = (call.fixture.inputSnapshots ids.toFixtureIdentities role c.inputs).map _
    rw [inputRecords, QualificationFixture.inputSnapshots, List.map_map, List.map_map]
    rfl
  · apply SameSet.of_eq_of_perm ((sortedBy_perm _ (call.assetEvidence role)).map _)
    show _ = (call.fixture.assetSnapshots role).map _
    rw [assetEvidence, List.map_map]
    rfl

/-! ### Logs, outputs and raw diagnostics -/

lemma caseName_append (localId t : String) :
    call.caseName role localId ++ t = call.caseName role (localId ++ t) :=
  qualificationArtifactId_append _ _ _

/-- The raw form of a log is named after the log. -/
lemma exists_rawName_iff :
    (∃ localId ∈ logNames count rawSuffixes, name = call.caseName role localId) ↔
      ∃ localId ∈ logNames count logSuffixes, name = call.caseName role localId ++ "_raw" := by
  simp only [mem_logNames, rawSuffixes, logSuffixes, List.mem_cons, List.not_mem_nil, or_false,
    caseName_append]
  constructor
  · rintro ⟨_, ⟨suffix, rfl | rfl, index, hindex, rfl⟩, rfl⟩
    · exact ⟨_, ⟨_, Or.inl rfl, index, hindex, rfl⟩, by rw [commandLog_append]; rfl⟩
    · exact ⟨_, ⟨_, Or.inr rfl, index, hindex, rfl⟩, by rw [commandLog_append]; rfl⟩
  · rintro ⟨_, ⟨suffix, rfl | rfl, index, hindex, rfl⟩, rfl⟩
    · exact ⟨_, ⟨_, Or.inl rfl, index, hindex, rfl⟩, by rw [commandLog_append]; rfl⟩
    · exact ⟨_, ⟨_, Or.inr rfl, index, hindex, rfl⟩, by rw [commandLog_append]; rfl⟩

lemma logNames_mono {count' : Nat} (h : count ≤ count') {suffixes : List String} :
    logNames count suffixes ⊆ logNames count' suffixes := by
  intro name hname
  obtain ⟨suffix, hsuffix, index, hindex, rfl⟩ := mem_logNames.mp hname
  exact mem_logNames.mpr ⟨suffix, hsuffix, index, by omega, rfl⟩

/-- No declared output is a log. -/
lemma not_log_of_mem_outputs (hcanonical : call.fixture.Canonical) {localId : String}
    (h : localId ∈ call.fixture.outputs.map (·.logicalId)) :
    localId ∉ logNames count logSuffixes := by
  intro hlog
  refine hcanonical.unreserved localId (List.mem_append_right _ h)
    (@reserved_of_mem_logNames count _ ?_)
  rw [logNames_append]
  exact List.mem_append_left _ hlog

/-- The logs among the outputs are those of the commands that were reached. -/
lemma mem_observedLogs (hcanonical : call.fixture.Canonical) (hlogs : run.Logged count)
    (hcount : count ≤ call.fixture.invocations.length) :
    name ∈ (c.evidence run b).outputIds ∧ name ∈ (c.evidence run b).allLogIds ↔
      ∃ localId ∈ logNames count logSuffixes, name = call.caseName role localId := by
  rw [mem_outputIds hlogs, allLogIds, mem_logIds]
  constructor
  · rintro ⟨⟨localId, hlocal, rfl⟩, localId', hlog, heq⟩
    obtain rfl := (call.caseName_inj role).mp heq
    rcases List.mem_append.mp hlocal with hlocal | hlocal
    · exact ⟨localId, hlocal, rfl⟩
    · have houtput := (presentNames_sublist call _).subset hlocal
      exact absurd hlog (not_log_of_mem_outputs hcanonical houtput)
  · rintro ⟨localId, hlog, rfl⟩
    exact ⟨⟨localId, List.mem_append_left _ hlog, rfl⟩, localId, logNames_mono hcount hlog, rfl⟩

lemma declaredMedia_evidence (hcanonical : call.fixture.Canonical) {declaration : FixtureOutput}
    (h : declaration ∈ call.fixture.outputs) :
    (c.evidence run b).declaredMedia (call.caseName role declaration.logicalId) =
      some declaration.mediaType := by
  have hnodup := hcanonical.facts.outputIds_nodup
  show ((call.fixture.outputSnapshots role).find? fun item =>
    item.logicalId = call.caseName role declaration.logicalId).map (·.mediaType) = _
  rw [QualificationFixture.outputSnapshots]
  revert h hnodup
  induction call.fixture.outputs with
  | nil =>
    intro h
    cases h
  | cons item outputs ih =>
    intro h hnodup
    rw [List.map_cons, List.nodup_cons] at hnodup
    by_cases hitem : item.logicalId = declaration.logicalId
    · rcases List.mem_cons.mp h with rfl | hmem
      · rw [List.map_cons, List.find?_cons_of_pos (by simp [caseName])]
        rfl
      · exact absurd (hitem ▸ List.mem_map_of_mem hmem) hnodup.1
    · have hmem : declaration ∈ outputs := by
        rcases List.mem_cons.mp h with rfl | hmem
        · exact absurd rfl hitem
        · exact hmem
      rw [List.map_cons, List.find?_cons_of_neg (by
        simpa [caseName, qualificationArtifactId_inj] using hitem)]
      exact ih hmem hnodup.2

/-- The media types of the outputs are those of the fixture. -/
lemma outputMedia_evidence (hcanonical : call.fixture.Canonical) (hlogs : run.Logged count)
    (hcount : count ≤ call.fixture.invocations.length)
    (h : record ∈ (c.evidence run b).outputArtifacts) :
    some record.mediaType =
      if record.logicalId ∈ (c.evidence run b).allLogIds then some "text/plain"
      else (c.evidence run b).declaredMedia record.logicalId := by
  have hlogged : ∀ {stream : LogStream} {logs : List Bytes}, logs.length = count →
      record ∈ call.logRecords ids role stream logs →
        record.logicalId ∈ (c.evidence run b).allLogIds ∧ record.mediaType = "text/plain" := by
    intro stream logs hlength hrecord
    obtain ⟨index, hindex, rfl⟩ := List.mem_mapIdx.mp hrecord
    have hinvocation : index < call.fixture.invocations.length := by omega
    refine ⟨mem_logIds.mpr ⟨commandLog index stream.value, ?_, rfl⟩, rfl⟩
    refine mem_logNames.mpr ⟨stream.value, ?_, index, hinvocation, rfl⟩
    cases stream <;> decide
  have hcollected : record ∈ call.outputRecords ids role run b.files :=
    (sortedBy_perm _ _).subset h
  rw [outputRecords, List.mem_append, List.mem_append] at hcollected
  rcases hcollected with (hrecord | hrecord) | hrecord
  · obtain ⟨hlog, hmedia⟩ := hlogged hlogs.1 hrecord
    rw [if_pos hlog, hmedia]
  · obtain ⟨hlog, hmedia⟩ := hlogged hlogs.2 hrecord
    rw [if_pos hlog, hmedia]
  · obtain ⟨present, hpresent, rfl⟩ := List.mem_map.mp hrecord
    obtain ⟨hdeclaration, -⟩ := mem_presentOutputs.mp hpresent
    rw [if_neg]
    · exact (declaredMedia_evidence hcanonical hdeclaration).symm
    · intro hlog
      obtain ⟨localId, hlocal, heq⟩ := mem_logIds.mp hlog
      obtain rfl := (call.caseName_inj role).mp heq
      exact not_log_of_mem_outputs hcanonical (List.mem_map_of_mem hdeclaration) hlocal

/-- The evidence keeps raw logs exactly when it must. -/
lemma diagnosticsRequired_iff :
    ((c.evidence run b).fixture.logRetention = .markerProjection ∧
        (c.evidence run b).outcome = .failed) ↔
      ((call.verdict role run b.files).1.isSome && call.fixture.logProjection.isSome) = true := by
  show ((if call.fixture.logProjection.isSome then LogRetention.markerProjection else .full) =
      .markerProjection ∧ (if (call.verdict role run b.files).1.isNone then
        QualificationOutcome.passed else .failed) = .failed) ↔ _
  cases call.fixture.logProjection <;> cases (call.verdict role run b.files).1 <;> simp

lemma mem_declaredIds {localId : String} (h : localId ∈ call.fixture.outputs.map (·.logicalId)) :
    call.caseName role localId ∈
      (c.evidence run b).requiredIds ++ (c.evidence run b).optionalIds := by
  obtain ⟨declaration, hdeclaration, rfl⟩ := List.mem_map.mp h
  have hsnapshot := List.mem_map_of_mem (f := fun item : FixtureOutput =>
    { item with logicalId := qualificationArtifactId (call.fixture.caseId role) item.logicalId })
    hdeclaration
  rw [List.mem_append]
  cases hrequired : declaration.required with
  | true => exact Or.inl (List.mem_map_of_mem (List.mem_filter.mpr ⟨hsnapshot, by simpa⟩))
  | false => exact Or.inr (List.mem_map_of_mem (List.mem_filter.mpr ⟨hsnapshot, by simpa⟩))

lemma checkArtifacts_evidence (hcanonical : call.fixture.Canonical) (hlogs : run.Logged count)
    (hcount : count ≤ call.fixture.invocations.length) :
    (c.evidence run b).checkArtifacts = .ok ⟨⟩ := by
  have hobserved : ∀ name : Identifier,
      name ∈ ((c.evidence run b).outputIds.filter fun id => id ∈ (c.evidence run b).allLogIds).map
        (fun logicalId => logicalId ++ "_raw") ↔
          ∃ localId ∈ logNames count rawSuffixes, name = call.caseName role localId := by
    intro name
    simp only [exists_rawName_iff, List.mem_map, List.mem_filter, decide_eq_true_eq,
      mem_observedLogs hcanonical hlogs hcount]
    constructor
    · rintro ⟨_, ⟨localId, hlocal, rfl⟩, rfl⟩
      exact ⟨localId, hlocal, rfl⟩
    · rintro ⟨localId, hlocal, rfl⟩
      exact ⟨_, ⟨localId, hlocal, rfl⟩, rfl⟩
  simp only [checkArtifacts, raiseIf_bind_eq_ok, raiseIf_eq_ok, diagnosticsRequired_iff]
  refine ⟨?_, ?_, ?_, ?_, ?_⟩
  · rintro ⟨hrequired, hdiffer⟩
    refine hdiffer ⟨?_, ?_⟩
    · intro name hname
      rw [mem_diagnosticIds hlogs, diagnosticSuffixes, if_pos hrequired] at hname
      exact (hobserved name).mpr hname
    · intro name hname
      rw [mem_diagnosticIds hlogs, diagnosticSuffixes, if_pos hrequired]
      exact (hobserved name).mp hname
  · rintro ⟨hrequired, hne⟩
    refine hne (List.eq_nil_iff_forall_not_mem.mpr ?_)
    intro name hname
    rw [mem_diagnosticIds hlogs, diagnosticSuffixes, if_neg hrequired] at hname
    obtain ⟨_, hlocal, -⟩ := hname
    cases hlocal
  · rw [not_or, not_not]
    refine ⟨?_, ?_⟩
    · intro name hname
      obtain ⟨localId, hlocal, rfl⟩ := (mem_diagnosticIds hlogs).mp hname
      obtain ⟨suffix, hsuffix, index, hindex, rfl⟩ := mem_logNames.mp hlocal
      have hraw := (diagnosticSuffixes_sub call (call.verdict role run b.files).1).1
        hsuffix
      obtain ⟨localId, hlog, heq⟩ := exists_rawName_iff.mp ⟨_, mem_logNames.mpr
        ⟨suffix, hraw, index, hindex, rfl⟩, (rfl : call.caseName role _ = _)⟩
      rw [heq]
      exact List.mem_map_of_mem (f := fun logicalId => logicalId ++ "_raw")
        (mem_logIds.mpr ⟨localId, logNames_mono hcount hlog, rfl⟩)
    · rintro ⟨record, hrecord, hdiffers⟩
      obtain ⟨-, hmedia, hdisclosed⟩ := diagnostic_of_mem hrecord
      rcases hdiffers with hdiffers | hdiffers
      · exact hdiffers hmedia
      · exact hdiffers hdisclosed
  · rw [not_not]
    intro name hname
    obtain ⟨localId, hlocal, rfl⟩ := (mem_outputIds hlogs).mp hname
    rw [List.mem_append]
    rcases List.mem_append.mp hlocal with hlocal | hlocal
    · exact Or.inl (mem_logIds.mpr ⟨localId, logNames_mono hcount hlocal, rfl⟩)
    · exact Or.inr (mem_declaredIds ((presentNames_sublist call _).subset hlocal))
  · rintro ⟨record, hrecord, hdiffers⟩
    exact hdiffers (outputMedia_evidence hcanonical hlogs hcount hrecord)

/-! ### The outcome -/

/-- What the validator prescribes for a failure, stated on the run. -/
def Prescribed (call : QualificationCall) (role : FixtureRole) (run : FixtureRun)
    (files : List (String × WorkspaceFile)) : Option QualificationFailure → Prop
  | none => run.exitCodes = call.fixture.exitCodesFor role ∧ call.missingOutput files = false
  | some .toolExited | some .timedOut =>
    run.exitCodes ≠ [] ∧
      run.exitCodes ≠ (call.fixture.exitCodesFor role).take run.exitCodes.length
  | some .programUnavailable => run.exitCodes.length < call.fixture.invocations.length
  | some .outputMissing =>
    run.exitCodes = call.fixture.exitCodesFor role ∧ call.missingOutput files = true
  | some .parserRejected | some .parserCrashed =>
    run.exitCodes = call.fixture.exitCodesFor role ∧ call.missingOutput files = false
  | some .executionClosureChanged =>
    run.exitCodes = (call.fixture.exitCodesFor role).take run.exitCodes.length
  | some .restrictedAssetChanged =>
    run.exitCodes = (call.fixture.exitCodesFor role).take run.exitCodes.length ∧
      call.fixture.restrictedAssets ≠ []

lemma logIds_subset_outputIds {bound : Nat} (hbound : bound ≤ count) (hlogs : run.Logged count) :
    (c.evidence run b).logIds bound ⊆ (c.evidence run b).outputIds := by
  intro name hname
  obtain ⟨localId, hlocal, rfl⟩ := mem_logIds.mp hname
  exact (mem_outputIds hlogs).mpr
    ⟨localId, List.mem_append_left _ (logNames_mono hbound hlocal), rfl⟩

/-- A required output is absent from the evidence exactly when its file is not there. -/
lemma missingRequired_iff (hcanonical : call.fixture.Canonical) (hlogs : run.Logged count) :
    (c.evidence run b).missingRequired ↔ call.missingOutput b.files = true := by
  have hsub : (c.evidence run b).requiredIds ⊆ (c.evidence run b).outputIds ↔
      ∀ declaration ∈ call.fixture.outputs, declaration.required = true →
        (fileAt b.files declaration).isSome := by
    constructor
    · intro hsub declaration hdeclaration hrequired
      have hsnapshot := List.mem_map_of_mem (f := fun item : FixtureOutput =>
        { item with
          logicalId := qualificationArtifactId (call.fixture.caseId role) item.logicalId })
        hdeclaration
      have hmem : call.caseName role declaration.logicalId ∈ (c.evidence run b).requiredIds :=
        List.mem_map_of_mem (List.mem_filter.mpr ⟨hsnapshot, hrequired⟩)
      obtain ⟨localId, hlocal, heq⟩ := (mem_outputIds hlogs).mp (hsub hmem)
      obtain rfl := (call.caseName_inj role).mp heq
      rcases List.mem_append.mp hlocal with hlocal | hlocal
      · exact absurd hlocal (not_log_of_mem_outputs hcanonical (List.mem_map_of_mem hdeclaration))
      · obtain ⟨declaration', hpresent, hid⟩ := List.mem_map.mp hlocal
        obtain ⟨hmem', hsome⟩ := List.mem_filter.mp hpresent
        obtain rfl := List.inj_on_of_nodup_map hcanonical.facts.outputIds_nodup hmem'
          hdeclaration hid
        exact hsome
    · intro hall name hname
      obtain ⟨item, hitem, rfl⟩ := List.mem_map.mp hname
      obtain ⟨hmem, hrequired⟩ := List.mem_filter.mp hitem
      obtain ⟨declaration, hdeclaration, rfl⟩ := List.mem_map.mp hmem
      refine (mem_outputIds hlogs).mpr ⟨declaration.logicalId, List.mem_append_right _ ?_, rfl⟩
      exact List.mem_map_of_mem
        (List.mem_filter.mpr ⟨hdeclaration, hall declaration hdeclaration hrequired⟩)
  rw [missingRequired, hsub, missingOutput, List.any_eq_true]
  simp only [Bool.and_eq_true, Option.isNone_iff_eq_none, Option.isSome_iff_ne_none, not_forall,
    not_not, exists_prop]

lemma judge_none {role : FixtureRole} {observation : FixtureObservation}
    {rejection : Option SemanticRejectionReason}
    (h : call.judge role observation = (none, rejection)) :
    role = .rejection → rejection = call.fixture.rejectionReason := by
  rintro rfl
  rw [judge] at h
  split at h
  · simp only at h
    split_ifs at h with hexpected
    · simp only [Prod.mk.injEq, true_and] at h
      simp only [Bool.and_eq_true, decide_eq_true_eq] at hexpected
      rw [← h, hexpected.2]
    · cases h
  · cases h

lemma verdict_none {files : List (String × WorkspaceFile)}
    (h : (call.verdict role run files).1 = none) :
    role = .rejection → (call.verdict role run files).2 = call.fixture.rejectionReason := by
  rw [verdict] at h ⊢
  split_ifs at h ⊢
  exact judge_none (Prod.ext h rfl)

/-- A run of all commands has all logs. -/
lemma allLogIds_subset (hcanonical : call.fixture.Canonical) (hlogs : run.Logged count)
    (hexit : run.exitCodes.length ≤ count)
    (hcodes : run.exitCodes = call.fixture.exitCodesFor role) :
    (c.evidence run b).allLogIds ⊆ (c.evidence run b).outputIds := by
  have hlength := QualificationFixture.exitCodesFor_length hcanonical.facts.invocations_ne_nil role
  rw [← hcodes] at hlength
  exact logIds_subset_outputIds (show call.fixture.invocations.length ≤ count by omega) hlogs

lemma checkPassed_evidence (hcanonical : call.fixture.Canonical) (hlogs : run.Logged count)
    (hexit : run.exitCodes.length ≤ count)
    (hverdict : (call.verdict role run b.files).1 = none) :
    (c.evidence run b).checkPassed = .ok ⟨⟩ ↔ Prescribed call role run b.files none := by
  have hmissing := missingRequired_iff (c := c) (b := b) hcanonical hlogs
  have hfailure : (c.evidence run b).failure = none := hverdict
  have hcodes : (c.evidence run b).exitCodes = run.exitCodes := rfl
  have hexpected : (c.evidence run b).fixture.expectedExitCodes =
    call.fixture.exitCodesFor role := rfl
  have hlength := QualificationFixture.exitCodesFor_length hcanonical.facts.invocations_ne_nil role
  have hrole : (if (c.evidence run b).role = .acceptance then
      raiseIf (c.evidence run b).semanticRejectionReason.isSome
        "acceptance evidence cannot carry a semantic rejection"
    else raiseIf ((c.evidence run b).semanticRejectionReason ≠
        (c.evidence run b).fixture.rejectionReason)
      "rejection evidence must carry its exact expected semantic reason") =
        (.ok ⟨⟩ : Except String Unit) := by
    have hreason : (c.evidence run b).semanticRejectionReason =
        if (call.verdict role run b.files).1.isNone ∧ role = .rejection then
          (call.verdict role run b.files).2 else none := rfl
    have hsnapshot : (c.evidence run b).fixture.rejectionReason =
        if role = .rejection then call.fixture.rejectionReason else none := rfl
    have hroleOf : (c.evidence run b).role = role := rfl
    rw [hreason, hsnapshot, hroleOf, hverdict]
    cases role with
    | acceptance => rfl
    | rejection =>
      simp [raiseIf, verdict_none hverdict rfl]
  rw [checkPassed, raiseIf_bind_eq_ok, hfailure, hcodes, hexpected]
  constructor
  · rintro ⟨hguard, -⟩
    simp only [not_or, not_not] at hguard
    obtain ⟨-, -, hcodes', hsub⟩ := hguard
    refine ⟨hcodes', Bool.eq_false_iff.mpr ?_⟩
    intro htrue
    exact hmissing.mpr htrue fun name hname => hsub (List.mem_append_right _ hname)
  · rintro ⟨hcodes', hfalse⟩
    refine ⟨?_, hrole⟩
    simp only [not_or, not_not]
    refine ⟨by simp, ?_, hcodes', List.append_subset.mpr
      ⟨allLogIds_subset hcanonical hlogs hexit hcodes', ?_⟩⟩
    · rw [hcodes', hlength]
      rfl
    · have hnot := mt hmissing.mp (by rw [hfalse]; exact Bool.false_ne_true)
      exact not_not.mp hnot

lemma checkFailure_evidence (hcanonical : call.fixture.Canonical) (hlogs : run.Logged count)
    (hexit : run.exitCodes.length ≤ count) (failure : QualificationFailure) :
    (c.evidence run b).checkFailure failure = .ok ⟨⟩ ↔
      Prescribed call role run b.files (some failure) := by
  have hmissing := missingRequired_iff (c := c) (b := b) hcanonical hlogs
  have hlogged : (c.evidence run b).hasCompletedLogs :=
    logIds_subset_outputIds (show run.exitCodes.length ≤ count from hexit) hlogs
  have hcompleted : (c.evidence run b).completedExpectedPrefix ↔
    run.exitCodes = (call.fixture.exitCodesFor role).take run.exitCodes.length := Iff.rfl
  have hcomplete : (c.evidence run b).completeExpectedInvocations ↔
    run.exitCodes = call.fixture.exitCodesFor role := Iff.rfl
  have hcodes : (c.evidence run b).exitCodes = run.exitCodes := rfl
  have hall : (c.evidence run b).completeExpectedInvocations →
      (c.evidence run b).allLogIds ⊆ (c.evidence run b).outputIds :=
    allLogIds_subset hcanonical hlogs hexit
  have hassets : (c.evidence run b).restrictedAssets ≠ [] ↔
      call.fixture.restrictedAssets ≠ [] := by
    rw [ne_eq, ← List.length_eq_zero_iff, show (c.evidence run b).restrictedAssets.length = _ from
      (sortedBy_perm _ (call.assetEvidence role)).length_eq]
    simp [assetEvidence, QualificationFixture.assetSnapshots]
  cases failure with
  | toolExited =>
    simp only [checkFailure, raiseIf_eq_ok, not_or, not_not, hcodes, hcompleted, hlogged, and_true,
      Prescribed, ne_eq]
  | timedOut =>
    simp only [checkFailure, raiseIf_eq_ok, not_or, not_not, hcodes, hcompleted, hlogged, and_true,
      Prescribed, ne_eq]
  | programUnavailable =>
    simp only [checkFailure, raiseIf_eq_ok, not_le, hcodes, Prescribed]
    exact Iff.rfl
  | outputMissing =>
    simp only [checkFailure, raiseIf_eq_ok, not_not, hmissing, Prescribed, hcomplete]
    exact ⟨fun h => ⟨h.1, h.2.2⟩, fun h => ⟨h.1, hall h.1, h.2⟩⟩
  | parserRejected =>
    simp only [checkFailure, raiseIf_eq_ok, not_not, hmissing, Prescribed, hcomplete,
      Bool.not_eq_true]
    exact ⟨fun h => ⟨h.1, h.2.2⟩, fun h => ⟨h.1, hall h.1, h.2⟩⟩
  | parserCrashed =>
    simp only [checkFailure, raiseIf_eq_ok, not_not, hmissing, Prescribed, hcomplete,
      Bool.not_eq_true]
    exact ⟨fun h => ⟨h.1, h.2.2⟩, fun h => ⟨h.1, hall h.1, h.2⟩⟩
  | executionClosureChanged =>
    simp only [checkFailure, raiseIf_eq_ok, not_not, hcompleted, hlogged, and_true, Prescribed]
  | restrictedAssetChanged =>
    simp only [checkFailure, raiseIf_eq_ok, not_not, hcompleted, hlogged, true_and, Prescribed,
      hassets]

/-- The outcome is accepted exactly when the run is what its failure prescribes. -/
theorem outcome_evidence (hcanonical : call.fixture.Canonical) (hlogs : run.Logged count)
    (hexit : run.exitCodes.length ≤ count) :
    (if (c.evidence run b).outcome = .passed then (c.evidence run b).checkPassed
        else (c.evidence run b).checkFailed) = .ok ⟨⟩ ↔
      Prescribed call role run b.files (call.verdict role run b.files).1 := by
  have houtcome : (c.evidence run b).outcome =
      if (call.verdict role run b.files).1.isNone then .passed else .failed := rfl
  cases hverdict : (call.verdict role run b.files).1 with
  | none =>
    rw [houtcome, hverdict]
    exact checkPassed_evidence hcanonical hlogs hexit hverdict
  | some failure =>
    have hfailure : (c.evidence run b).failure = some failure := hverdict
    have hreason : (c.evidence run b).semanticRejectionReason = none := by
      show (if (call.verdict role run b.files).1.isNone ∧ role = .rejection then
        (call.verdict role run b.files).2 else none) = none
      rw [hverdict]
      simp
    rw [houtcome, hverdict, if_neg (by simp), checkFailed, hfailure, hreason]
    exact checkFailure_evidence hcanonical hlogs hexit failure

/-- The record lemma: the evidence of a run is accepted exactly when the run is what its failure
prescribes. -/
theorem build_evidence (h : call.Bound ids) (hpos : 0 < count) (hlogs : run.Logged count)
    (hcount : count ≤ call.fixture.invocations.length) (hexit : run.exitCodes.length ≤ count)
    {e : QualificationEvidence} :
    (c.raw run b).build ids = .ok e ↔
      e = c.evidence run b ∧
        Prescribed call role run b.files (call.verdict role run b.files).1 := by
  have houtcome := outcome_evidence (c := c) (b := b) h.canonical hlogs hexit
  rw [build_raw h hlogs, validateOutcome, checkIdentities_evidence h hpos hlogs, ok_bind,
    checkDeployment_evidence h, ok_bind, checkInputs_evidence (hexit.trans hcount),
    ok_bind, checkArtifacts_evidence h.canonical hlogs hcount, ok_bind,
    bind_eq_ok]
  constructor
  · rintro ⟨_, hok, he⟩
    exact ⟨(Except.ok.inj he).symm, houtcome.mp hok⟩
  · rintro ⟨rfl, hprescribed⟩
    exact ⟨⟨⟩, houtcome.mpr hprescribed, rfl⟩

end RecordedCase

end QualificationCall

end EdaGym
