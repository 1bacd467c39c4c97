import EdaGym.Providers.ToolExecution
import EdaGym.Providers.TrialAdmission

/-!
# The artifacts of an execution

What an executor returns is recorded under the logical identifiers its plan declares. Both recorders
look the declarations up by that identifier, so a plan that declares one twice loses a declaration.
-/

namespace EdaGym

open Resolution (persistentDisclosure)
open ToolRuntime (declarations collectedOutputs)

/-- `InvocationPlan.normalize_outputs`. -/
def normalizeOutputs (outputs : List ToolOutputDeclaration) :
    Except String (List ToolOutputDeclaration) := do
  raiseIf (¬ (outputs.map fun entry => (entry.logicalId, entry.path)).Nodup)
    "invocation output identities and paths must be unique"
  return sortedBy ToolOutputDeclaration.logicalId outputs

/-- The part of `_validate_invocation` that looks at the outputs. -/
def validateReserved (outputs : List ToolOutputDeclaration) : Except String Unit :=
  raiseIf (∃ item ∈ outputs, item.logicalId ∈ ["executor.stdout", "executor.stderr"])
    "invocation output uses a reserved artifact identity"

/-- `execution_artifact_id`. -/
def executionArtifactId [RecordDigests] (runId : Digest) (jobId localId : Identifier) :
    Identifier :=
  "artifact_" ++ removeLeading "sha256:" (RecordDigests.recordDigest "execution-artifact-id-v1"
    [("run_id", runId), ("job_id", jobId), ("local_id", localId)])

/-- The local identifiers of `_persist_sanitized_measurements`, which is called for a result with
measurements, and of the raw links that it records where there are licences. -/
def measurementIds (measured licensed : Bool) : List Identifier :=
  if measured then "measurements" :: if licensed then ["raw.measurement-links"] else [] else []

structure EvaluationArtifact where
  localId : Identifier
  record : ArtifactRecord

section Recording

variable (policy : ArtifactPolicy) (artifactId : Identifier → Identifier)
  (keep : ArtifactRecord → Except String Unit)

/-- One turn of the recording loop; `keep` is the store's check and the journal. -/
def recordArtifact (item : Identifier × BlobRef × MediaType × ArtifactClass) :
    Except String EvaluationArtifact := do
  let (localId, blob, mediaType, artifactClass) := item
  let disclosure ← orRaise (persistentDisclosure policy artifactClass)
    "executor persisted a non-retainable artifact class"
  let record : ArtifactRecord := {
    logicalId := artifactId localId
    blob, mediaType, artifactClass
    sensitivity := disclosure.sensitivity
    visibility := disclosure.visibility
    redistribution := disclosure.redistribution
    not_secret := disclosure.not_secret
    public_policy := disclosure.public_policy }
  keep record
  return ⟨localId, record⟩

def CollectedOutput.material (output : CollectedOutput) :
    Identifier × BlobRef × MediaType × ArtifactClass :=
  (output.logicalId, output.blob, output.mediaType, output.artifactClass)

/-- `_record_execution_artifacts`. -/
def recordExecutionArtifacts (planned : List ToolOutputDeclaration)
    (execution : ToolExecutionResult) : Except String (List EvaluationArtifact) := do
  let declared := declarations planned
  let outputs := collectedOutputs execution
  raiseIf (outputs.entries.length ≠ execution.outputs.length ∨ ∃ k ∈ outputs.keys, k ∉ declared)
    "executor returned undeclared or duplicate outputs"
  raiseIf (∃ entry ∈ outputs.entries, ∃ declaration ∈ declared.get? entry.1,
      entry.2.mediaType ≠ declaration.mediaType ∨
        entry.2.artifactClass ≠ declaration.artifactClass)
    "executor output diverges from its declaration"
  raiseIf (∃ item ∈ planned, item.required ∧ item.logicalId ∉ outputs)
    "executor omitted a required declared output"
  let material :=
    ("executor.stdout", execution.stdout, "application/octet-stream", .diagnostic) ::
    ("executor.stderr", execution.stderr, "application/octet-stream", .diagnostic) ::
    ((sortedBy Prod.fst outputs.entries).map Prod.snd).map CollectedOutput.material
  material.mapM (recordArtifact policy artifactId keep)

end Recording

/-- Each required declaration has one artifact of its kind, each output one declaration, and no two
artifacts one identifier. -/
structure NothingLost (name : Identifier → Identifier) (planned : List ToolOutputDeclaration)
    (outputs : List CollectedOutput) (records : List ArtifactRecord) (others : List Identifier) :
    Prop where
  required : ∀ d ∈ planned, d.required → ∃! r, r ∈ records ∧ r.logicalId = name d.logicalId ∧
    r.mediaType = d.mediaType ∧ r.artifactClass = d.artifactClass
  sources : ∀ o ∈ outputs, planned.countP (fun d => d.logicalId = o.logicalId) = 1
  ids_nodup : (others ++ records.map ArtifactRecord.logicalId).Nodup

/-- No two of some local identifiers are given one identifier: the digests do not collide. -/
def NoCollision (name : Identifier → Identifier) (ids : List Identifier) : Prop :=
  ∀ id ∈ ids, ∀ id' ∈ ids, name id = name id' → id = id'

instance (name : Identifier → Identifier) (ids : List Identifier) :
    Decidable (NoCollision name ids) :=
  inferInstanceAs (Decidable (∀ id ∈ ids, ∀ id' ∈ ids, name id = name id' → id = id'))

/-- What both recorders check about a result. -/
structure Declared (planned : List ToolOutputDeclaration) (outputs : List CollectedOutput) :
    Prop where
  ids_nodup : (outputs.map CollectedOutput.logicalId).Nodup
  declared : ∀ o ∈ outputs, ∃ d ∈ planned, d.logicalId = o.logicalId ∧
    d.mediaType = o.mediaType ∧ d.artifactClass = o.artifactClass
  complete : ∀ d ∈ planned, d.required → ∃ o ∈ outputs, o.logicalId = d.logicalId

/-- The record of an output. -/
def Records (name : Identifier → Identifier) (o : CollectedOutput) (r : ArtifactRecord) : Prop :=
  r.logicalId = name o.logicalId ∧ r.mediaType = o.mediaType ∧ r.artifactClass = o.artifactClass

variable {name : Identifier → Identifier} {planned : List ToolOutputDeclaration}
  {outputs sorted : List CollectedOutput} {records : List ArtifactRecord} {others : List Identifier}

lemma exists_of_forall₂_left {α β : Type} {R : α → β → Prop} {xs : List α} {ys : List β}
    (h : List.Forall₂ R xs ys) {x : α} (hx : x ∈ xs) : ∃ y ∈ ys, R x y := by
  induction h with
  | nil => cases hx
  | @cons a b _ _ hab _ ih =>
    rcases List.mem_cons.mp hx with rfl | hx
    · exact ⟨b, by simp, hab⟩
    · obtain ⟨y, hy, hxy⟩ := ih hx
      exact ⟨y, List.mem_cons_of_mem _ hy, hxy⟩

lemma countP_eq_one_of_nodup (h : (planned.map ToolOutputDeclaration.logicalId).Nodup)
    {d : ToolOutputDeclaration} (hd : d ∈ planned) :
    planned.countP (fun d' => d'.logicalId = d.logicalId) = 1 := by
  have hcount := List.count_eq_one_of_mem h (List.mem_map_of_mem hd)
  rwa [List.count_eq_countP, List.countP_map] at hcount

variable {id : Identifier}

lemma eq_of_countP_eq_one
    (h : planned.countP (fun d => d.logicalId = id) = 1) {d d' : ToolOutputDeclaration}
    (hd : d ∈ planned) (hd' : d' ∈ planned) (hid : d.logicalId = id) (hid' : d'.logicalId = id) :
    d = d' := by
  rw [List.countP_eq_length_filter, List.length_eq_one_iff] at h
  obtain ⟨only, honly⟩ := h
  have hmem : ∀ {x}, x ∈ planned → x.logicalId = id → x = only := by
    intro x hx hxid
    have : x ∈ planned.filter fun d => d.logicalId = id := List.mem_filter.mpr ⟨hx, by simpa⟩
    rwa [honly, List.mem_singleton] at this
  rw [hmem hd hid, hmem hd' hid']

/-- Nothing is lost exactly when the identifiers of the outputs tell their declarations apart. -/
lemma Declared.nothingLost_iff (h : Declared planned outputs)
    (hname : NoCollision name (planned.map ToolOutputDeclaration.logicalId))
    (hsorted : sorted.Perm outputs)
    (hrecords : List.Forall₂ (Records name) sorted records) (hothers : others.Nodup) :
    NothingLost name planned outputs records others ↔
      (∀ o ∈ outputs, planned.countP (fun d => d.logicalId = o.logicalId) = 1) ∧
        ∀ o ∈ outputs, name o.logicalId ∉ others := by
  have hids : records.map ArtifactRecord.logicalId =
      sorted.map fun o => name o.logicalId :=
    (map_eq_of_forall₂ hrecords fun _ _ _ hr => hr.1.symm).symm
  have hnodup : (records.map ArtifactRecord.logicalId).Nodup := by
    rw [hids, ← Function.comp_def, ← List.map_map]
    have hknown : ∀ id ∈ sorted.map CollectedOutput.logicalId,
        id ∈ planned.map ToolOutputDeclaration.logicalId := by
      intro id hid
      obtain ⟨o, ho, rfl⟩ := List.mem_map.mp hid
      obtain ⟨d, hd, hsame, -⟩ := h.declared o (hsorted.mem_iff.mp ho)
      exact hsame ▸ List.mem_map_of_mem hd
    exact (((hsorted.map _).nodup_iff).mpr h.ids_nodup).map_on fun id hid id' hid' =>
      hname id (hknown id hid) id' (hknown id' hid')
  constructor
  · intro hlost
    refine ⟨hlost.sources, fun o ho hother => ?_⟩
    refine (List.nodup_append.mp hlost.ids_nodup).2.2 _ hother _ ?_ rfl
    rw [hids]
    exact List.mem_map_of_mem (f := fun o => name o.logicalId) (hsorted.mem_iff.mpr ho)
  · rintro ⟨hsources, hdisjoint⟩
    refine ⟨fun d hd hrequired => ?_, hsources, List.nodup_append.mpr ⟨hothers, hnodup, ?_⟩⟩
    · obtain ⟨o, ho, hid⟩ := h.complete d hd hrequired
      obtain ⟨d', hd', hid', hmedia, hclass⟩ := h.declared o ho
      obtain rfl := eq_of_countP_eq_one (hsources o ho) hd hd' hid.symm hid'
      obtain ⟨r, hr, hrecord⟩ := exists_of_forall₂_left hrecords (hsorted.mem_iff.mpr ho)
      refine ⟨r, ⟨hr, hid ▸ hrecord.1, hrecord.2.1.trans hmedia.symm,
        hrecord.2.2.trans hclass.symm⟩, fun r' hr' => ?_⟩
      exact List.inj_on_of_nodup_map hnodup hr'.1 hr (by rw [hr'.2.1, hrecord.1, hid])
    · rintro id hid _ hmem rfl
      rw [hids] at hmem
      obtain ⟨o, ho, rfl⟩ := List.mem_map.mp hmem
      exact hdisjoint o (hsorted.mem_iff.mp ho) hid

/-! ### The recorders -/

lemma declared_of_get? {d : ToolOutputDeclaration}
    (h : (declarations planned).get? id = some d) : d ∈ planned ∧ d.logicalId = id := by
  obtain ⟨d', hd', heq⟩ := List.mem_map.mp (Dict.mem_of_get?_ofList h)
  obtain ⟨hid, rfl⟩ := Prod.mk.inj heq
  exact ⟨hd', hid⟩

lemma mem_collectedOutputs {execution : ToolExecutionResult} :
    id ∈ collectedOutputs execution ↔ ∃ o ∈ execution.outputs, o.logicalId = id := by
  rw [collectedOutputs, Dict.mem_ofList, List.map_map, List.mem_map]
  rfl

/-- The outputs of a result in which no identifier occurs twice, by identifier. -/
lemma collected_perm {execution : ToolExecutionResult}
    (h : ¬ ((collectedOutputs execution).entries.length ≠ execution.outputs.length)) :
    (execution.outputs.map CollectedOutput.logicalId).Nodup ∧
      (collectedOutputs execution).entries =
        execution.outputs.map (fun o => (o.logicalId, o)) ∧
      ((sortedBy Prod.fst (collectedOutputs execution).entries).map Prod.snd).Perm
        execution.outputs := by
  have hnodup : ((execution.outputs.map fun o => (o.logicalId, o)).map Prod.fst).Nodup := by
    rw [← Dict.length_entries_ofList, List.length_map]
    exact not_not.mp h
  have hentries := Dict.entries_ofList hnodup
  refine ⟨by rwa [List.map_map] at hnodup, hentries, ?_⟩
  have hperm := (sortedBy_perm Prod.fst (collectedOutputs execution).entries).map Prod.snd
  refine hperm.trans ?_
  rw [collectedOutputs, hentries, List.map_map]
  rw [Function.comp_def, List.map_id']

section Evaluator

variable {policy : ArtifactPolicy} {artifactId : Identifier → Identifier}
  {keep : ArtifactRecord → Except String Unit} {execution : ToolExecutionResult}
  {artifacts : List EvaluationArtifact}

lemma recordArtifact_eq_ok {id : Identifier} {blob : BlobRef} {mediaType : MediaType}
    {artifactClass : ArtifactClass} {artifact : EvaluationArtifact}
    (h : recordArtifact policy artifactId keep (id, blob, mediaType, artifactClass) =
      .ok artifact) :
    artifact.record.logicalId = artifactId id ∧ artifact.record.mediaType = mediaType ∧
      artifact.record.artifactClass = artifactClass := by
  simp only [recordArtifact, bind_eq_ok, pure_eq_ok] at h
  obtain ⟨disclosure, -, _, -, rfl⟩ := h
  exact ⟨rfl, rfl, rfl⟩

/-- The streams come first, the outputs after them in the order of their identifiers. -/
lemma recordExecutionArtifacts_eq_ok
    (h : recordExecutionArtifacts policy artifactId keep planned execution = .ok artifacts) :
    Declared planned execution.outputs ∧ ∃ sorted : List CollectedOutput,
      sorted.Perm execution.outputs ∧
      (artifacts.take 2).map (fun artifact => artifact.record.logicalId) =
        ["executor.stdout", "executor.stderr"].map artifactId ∧
      List.Forall₂ (Records artifactId) sorted
        ((artifacts.drop 2).map EvaluationArtifact.record) := by
  simp only [recordExecutionArtifacts, raiseIf_bind_eq_ok, not_or, not_exists, not_and] at h
  obtain ⟨⟨hlength, hknown⟩, hmatch, hrequired, hrecorded⟩ := h
  obtain ⟨hnodup, hentries, hperm⟩ := collected_perm hlength
  refine ⟨⟨hnodup, fun o ho => ?_, fun d hd hreq => ?_⟩, _, hperm, ?_⟩
  · have hmem : o.logicalId ∈ collectedOutputs execution := mem_collectedOutputs.mpr ⟨o, ho, rfl⟩
    obtain ⟨d, hd⟩ := Dict.mem_iff.mp (not_not.mp (hknown _ (Dict.mem_keys.mpr hmem)))
    have hagree := hmatch (o.logicalId, o) (hentries ▸ List.mem_map_of_mem ho) d hd
    rw [not_not, not_not] at hagree
    obtain ⟨hin, hid⟩ := declared_of_get? hd
    exact ⟨d, hin, hid, hagree.1.symm, hagree.2.symm⟩
  · exact mem_collectedOutputs.mp (not_not.mp (hrequired d hd hreq))
  · have hforall := mapM_eq_ok_iff.mp hrecorded
    cases hforall with
    | cons hstdout hrest =>
      cases hrest with
      | cons hstderr hrest =>
        refine ⟨by simp [(recordArtifact_eq_ok hstdout).1, (recordArtifact_eq_ok hstderr).1], ?_⟩
        rw [List.forall₂_map_left_iff] at hrest
        rw [List.drop_succ_cons, List.drop_succ_cons, List.drop_zero, List.forall₂_map_right_iff]
        exact hrest.imp fun o artifact h => recordArtifact_eq_ok h

end Evaluator

/-! ### Results with all outputs -/

/-- A completed result with one output for each identifier of a plan whose class is kept. -/
def keptOutputs (keeps : ArtifactClass → Bool) (planned : List ToolOutputDeclaration)
    (blob : BlobRef) : ToolExecutionResult where
  state := { ownHandle := true, state := { state := .completed } }
  stdout := blob
  stderr := blob
  outputs := ((declarations planned).entries.filter fun entry =>
    keeps entry.2.artifactClass).map fun entry =>
      ⟨entry.1, blob, entry.2.mediaType, entry.2.artifactClass⟩

section Kept

variable {keeps : ArtifactClass → Bool} {blob : BlobRef}

lemma mem_keptOutputs {o : CollectedOutput} : o ∈ (keptOutputs keeps planned blob).outputs ↔
    ∃ d, (declarations planned).get? o.logicalId = some d ∧ keeps d.artifactClass = true ∧
      o = ⟨o.logicalId, blob, d.mediaType, d.artifactClass⟩ := by
  rw [keptOutputs, List.mem_map]
  constructor
  · rintro ⟨entry, hentry, rfl⟩
    obtain ⟨hmem, hkeeps⟩ := List.mem_filter.mp hentry
    exact ⟨entry.2, Dict.mem_entries.mp hmem, hkeeps, rfl⟩
  · rintro ⟨d, hd, hkeeps, ho⟩
    exact ⟨(o.logicalId, d), List.mem_filter.mpr ⟨Dict.mem_entries.mpr hd, hkeeps⟩, ho.symm⟩

lemma exists_declaration {d : ToolOutputDeclaration} (hd : d ∈ planned) :
    ∃ last, (declarations planned).get? d.logicalId = some last := by
  refine Dict.mem_iff.mp ?_
  rw [declarations, Dict.mem_ofList, List.map_map]
  exact List.mem_map_of_mem hd

lemma exists_keptOutputs {d last : ToolOutputDeclaration}
    (hlast : (declarations planned).get? d.logicalId = some last)
    (hkeeps : keeps last.artifactClass = true) :
    ∃ o ∈ (keptOutputs keeps planned blob).outputs, o.logicalId = d.logicalId :=
  ⟨⟨d.logicalId, blob, last.mediaType, last.artifactClass⟩,
    mem_keptOutputs.mpr ⟨last, hlast, hkeeps, rfl⟩, rfl⟩

lemma keptOutputs_nodup :
    ((keptOutputs keeps planned blob).outputs.map CollectedOutput.logicalId).Nodup := by
  rw [keptOutputs, List.map_map]
  exact (declarations planned).nodup.sublist (List.filter_sublist.map _)

lemma collected_kept : (collectedOutputs (keptOutputs keeps planned blob)).entries =
    (keptOutputs keeps planned blob).outputs.map fun o => (o.logicalId, o) := by
  refine Dict.entries_ofList ?_
  rw [List.map_map]
  exact keptOutputs_nodup

/-- What a recorder checks first holds of these outputs. -/
lemma keptOutputs_declared {k : Identifier}
    (hk : k ∈ (collectedOutputs (keptOutputs keeps planned blob)).keys) :
    k ∈ declarations planned := by
  obtain ⟨o, ho, rfl⟩ := mem_collectedOutputs.mp (Dict.mem_keys.mp hk)
  obtain ⟨d, hd, -⟩ := mem_keptOutputs.mp ho
  exact Dict.mem_iff.mpr ⟨d, hd⟩

lemma recordArtifact_kept {artifactId : Identifier → Identifier}
    (item : Identifier × BlobRef × MediaType × ArtifactClass) :
    ∃ artifact, recordArtifact keptPolicy artifactId (fun _ => .ok ⟨⟩) item = .ok artifact := by
  obtain ⟨id, blob, mediaType, artifactClass⟩ := item
  exact ⟨_, rfl⟩

/-- The last declaration of each identifier decides what is recorded for it. -/
lemma exists_recordExecutionArtifacts (artifactId : Identifier → Identifier) (blob : BlobRef) :
    ∃ artifacts, recordExecutionArtifacts keptPolicy artifactId (fun _ => .ok ⟨⟩) planned
      (keptOutputs (fun _ => true) planned blob) = .ok artifacts := by
  obtain ⟨artifacts, hartifacts⟩ := exists_mapM_eq_ok fun item _ =>
    @recordArtifact_kept artifactId item
  refine ⟨artifacts, ?_⟩
  simp only [recordExecutionArtifacts, raiseIf_bind_eq_ok, not_or, not_exists, not_and, not_not]
  refine ⟨⟨?_, fun k hk => keptOutputs_declared hk⟩, fun entry hentry d hd => ?_, fun d hd _ => ?_,
    hartifacts⟩
  · rw [collected_kept, List.length_map]
  · rw [collected_kept] at hentry
    obtain ⟨o, ho, rfl⟩ := List.mem_map.mp hentry
    obtain ⟨d', hd', -, heq⟩ := mem_keptOutputs.mp ho
    obtain rfl := Option.some.inj (hd'.symm.trans hd)
    rw [heq]
    exact ⟨rfl, rfl⟩
  · obtain ⟨last, hlast⟩ := exists_declaration hd
    exact mem_collectedOutputs.mpr (exists_keptOutputs hlast rfl)

end Kept

/-! ### The dispatcher of a participant -/

section Dispatcher

variable [Canonical] [RecordDigests] {runtime : ToolRuntime}
  {plan : ToolPlan runtime.dispatcher} {result : ToolExecutionResult}

/-- Whether the policy of a participant's environment retains a class. -/
def retains (runtime : ToolRuntime) (artifactClass : ArtifactClass) : Bool :=
  (persistentDisclosure runtime.dispatcher.environment.artifactPolicy artifactClass).isSome

lemma operationOutputRecords_eq_ok
    (h : runtime.operationOutputRecords plan result = .ok records) :
    Declared plan.outputs result.outputs ∧ ∃ sorted : List CollectedOutput,
      sorted.Perm result.outputs ∧
      List.Forall₂ (Records (toolOutputId plan.invocationDigest)) sorted records ∧
      ∀ o ∈ result.outputs, ∃ last, (declarations plan.outputs).get? o.logicalId = some last ∧
        retains runtime last.artifactClass = true := by
  simp only [ToolRuntime.operationOutputRecords, raiseIf_bind_eq_ok, not_or, not_exists,
    not_and] at h
  obtain ⟨⟨hlength, -⟩, hrequired, hrecorded⟩ := h
  obtain ⟨hnodup, -, hperm⟩ := collected_perm hlength
  have hforall := mapM_eq_ok_iff.mp hrecorded
  have hrecord : ∀ {o r}, runtime.operationOutputRecord plan (declarations plan.outputs) o = .ok r →
      (∃ d, (declarations plan.outputs).get? o.logicalId = some d ∧ d.mediaType = o.mediaType ∧
        d.artifactClass = o.artifactClass ∧ retains runtime d.artifactClass = true) ∧
      Records (toolOutputId plan.invocationDigest) o r := by
    intro o r hr
    simp only [ToolRuntime.operationOutputRecord, ToolRuntime.artifactRecord, bind_eq_ok,
      pure_eq_ok, orRaise_eq_ok, raiseIf_eq_ok, not_or, not_not] at hr
    obtain ⟨d, hd, _, ⟨hmedia, hclass⟩, disclosure, hdisclosure, rfl⟩ := hr
    refine ⟨⟨d, hd, hmedia.symm, hclass.symm, ?_⟩, rfl, rfl, rfl⟩
    rw [retains, ← hclass, hdisclosure]
    rfl
  have hkept : ∀ o ∈ result.outputs, ∃ d, (declarations plan.outputs).get? o.logicalId = some d ∧
      d.mediaType = o.mediaType ∧ d.artifactClass = o.artifactClass ∧
        retains runtime d.artifactClass = true := by
    intro o ho
    obtain ⟨r, -, hr⟩ := exists_of_forall₂_left hforall (hperm.mem_iff.mpr ho)
    exact (hrecord hr).1
  refine ⟨⟨hnodup, fun o ho => ?_, fun d hd hreq => ?_⟩, _, hperm,
    hforall.imp fun o r hr => (hrecord hr).2, fun o ho => ?_⟩
  · obtain ⟨d, hd, hmedia, hclass, -⟩ := hkept o ho
    obtain ⟨hin, hid⟩ := declared_of_get? hd
    exact ⟨d, hin, hid, hmedia, hclass⟩
  · exact mem_collectedOutputs.mp (not_not.mp (hrequired d hd hreq))
  · obtain ⟨d, hd, -, -, hkeeps⟩ := hkept o ho
    exact ⟨d, hd, hkeeps⟩

variable (runtime plan) in
/-- What else a job of a participant is recorded under: its streams and its evidence. -/
def operationIds (evidenceDigest : Digest) : List Identifier :=
  [toolArtifactPrefix runtime.dispatcher.header.runId plan.invocationDigest ++ ".stdout",
    toolArtifactPrefix runtime.dispatcher.header.runId plan.invocationDigest ++ ".stderr",
    toolEvidenceId runtime.dispatcher.header.runId evidenceDigest]

omit [Canonical] in
/-- The kinds of the derived identifiers tell them apart, whatever the digests are. -/
lemma derivedIdentifier_append_ne {kind kind' : String} {fields fields' : List (String × String)}
    {domain domain' : String} (suffix : String)
    (h : kind.toList[5]? ≠ kind'.toList[5]?) (hkind : 5 < kind.toList.length)
    (hkind' : 5 < kind'.toList.length) :
    derivedIdentifier kind fields domain ≠ derivedIdentifier kind' fields' domain' ++ suffix := by
  intro heq
  have hchars := congrArg (fun s : String => s.toList[5]?) heq
  simp only [derivedIdentifier, String.toList_append, List.append_assoc] at hchars
  rw [List.getElem?_append_left hkind, List.getElem?_append_left hkind'] at hchars
  exact h hchars

lemma operationIds_nodup (evidenceDigest : Digest) :
    (operationIds runtime plan evidenceDigest).Nodup := by
  have hevidence : ∀ suffix, toolEvidenceId runtime.dispatcher.header.runId evidenceDigest ≠
      toolArtifactPrefix runtime.dispatcher.header.runId plan.invocationDigest ++ suffix := by
    intro suffix
    exact derivedIdentifier_append_ne suffix (by decide) (by decide) (by decide)
  have hstreams : ∀ head : String, head ++ ".stdout" ≠ head ++ ".stderr" := by
    intro head heq
    have := (String.append_right_inj head).mp heq
    revert this
    decide
  simp only [operationIds, List.nodup_cons, List.mem_cons, List.not_mem_nil, or_false, not_or,
    not_false_eq_true, List.nodup_nil, and_true]
  exact ⟨⟨hstreams _, (hevidence _).symm⟩, (hevidence _).symm⟩

lemma toolOutputId_notMem (evidenceDigest : Digest) (id : Identifier) :
    toolOutputId plan.invocationDigest id ∉ operationIds runtime plan evidenceDigest := by
  have hevidence : toolOutputId plan.invocationDigest id ≠
      toolEvidenceId runtime.dispatcher.header.runId evidenceDigest ++ "" :=
    derivedIdentifier_append_ne "" (by decide) (by decide) (by decide)
  rw [String.append_empty] at hevidence
  simp only [operationIds, List.mem_cons, List.not_mem_nil, or_false, not_or]
  exact ⟨derivedIdentifier_append_ne _ (by decide) (by decide) (by decide),
    derivedIdentifier_append_ne _ (by decide) (by decide) (by decide), hevidence⟩

/-- The outputs that can be recorded at all are told apart: where every required declaration is of a
class that is retained, an identifier whose last declaration is of such a class is declared once. -/
def RecordedOnce (runtime : ToolRuntime) (plan : ToolPlan runtime.dispatcher) : Prop :=
  (∀ d ∈ plan.outputs, d.required → ∀ last ∈ (declarations plan.outputs).get? d.logicalId,
    retains runtime last.artifactClass = true) →
  ∀ id, ∀ last ∈ (declarations plan.outputs).get? id, retains runtime last.artifactClass = true →
    plan.outputs.countP (fun d => d.logicalId = id) = 1

lemma exists_operationOutputRecords (blob : BlobRef)
    (h : ∀ d ∈ plan.outputs, d.required → ∀ last ∈ (declarations plan.outputs).get? d.logicalId,
      retains runtime last.artifactClass = true) :
    ∃ records, runtime.operationOutputRecords plan
      (keptOutputs (retains runtime) plan.outputs blob) = .ok records := by
  obtain ⟨-, -, hperm⟩ := @collected_perm (keptOutputs (retains runtime) plan.outputs blob) (by
    rw [collected_kept, List.length_map]
    exact not_not.mpr rfl)
  have hrecord : ∀ o ∈ (sortedBy Prod.fst (collectedOutputs
      (keptOutputs (retains runtime) plan.outputs blob)).entries).map Prod.snd,
      ∃ r, runtime.operationOutputRecord plan (declarations plan.outputs) o = .ok r := by
    intro o ho
    obtain ⟨d, hd, hkeeps, heq⟩ := mem_keptOutputs.mp (hperm.mem_iff.mp ho)
    obtain ⟨disclosure, hdisclosure⟩ := Option.isSome_iff_exists.mp hkeeps
    have hclass : o.artifactClass = d.artifactClass := congrArg CollectedOutput.artifactClass heq
    have hmedia : o.mediaType = d.mediaType := congrArg CollectedOutput.mediaType heq
    rw [ToolRuntime.operationOutputRecord, hd, hmedia, hclass, ToolRuntime.artifactRecord,
      hdisclosure]
    simp [orRaise, raiseIf, bind_eq_ok]
  obtain ⟨records, hrecords⟩ := exists_mapM_eq_ok hrecord
  refine ⟨records, ?_⟩
  simp only [ToolRuntime.operationOutputRecords, raiseIf_bind_eq_ok, not_or, not_exists, not_and,
    not_not]
  refine ⟨⟨?_, fun k hk => keptOutputs_declared hk⟩, fun d hd hrequired => ?_, hrecords⟩
  · rw [collected_kept, List.length_map]
  · obtain ⟨last, hlast⟩ := exists_declaration hd
    exact mem_collectedOutputs.mpr (exists_keptOutputs hlast (h d hd hrequired last hlast))

/-- Nothing that is returned for the plan of a participant is lost, and what it is recorded under is
told apart from the streams and the evidence. -/
def KeepsOperationOutputs (runtime : ToolRuntime) (plan : ToolPlan runtime.dispatcher) : Prop :=
  ∀ result records evidenceDigest, runtime.operationOutputRecords plan result = .ok records →
    NothingLost (toolOutputId plan.invocationDigest) plan.outputs result.outputs records
      (operationIds runtime plan evidenceDigest)

lemma keepsOperationOutputs_iff (hname : NoCollision (toolOutputId plan.invocationDigest)
    (plan.outputs.map ToolOutputDeclaration.logicalId)) :
    KeepsOperationOutputs runtime plan ↔ RecordedOnce runtime plan := by
  constructor
  · intro h hretained id last hlast hkeeps
    obtain ⟨records, hrecords⟩ := exists_operationOutputRecords
      { digest := "", sizeBytes := 0 } hretained
    obtain ⟨-, hid⟩ := declared_of_get? hlast
    have hlast' : (declarations plan.outputs).get? last.logicalId = some last := by rwa [hid]
    obtain ⟨o, ho, hsame⟩ := exists_keptOutputs hlast' hkeeps
    have hone := (h _ _ "" hrecords).sources o ho
    rwa [hsame, hid] at hone
  · intro h result records evidenceDigest hrecords
    obtain ⟨hdeclared, sorted, hperm, hforall, hkept⟩ := operationOutputRecords_eq_ok hrecords
    rw [hdeclared.nothingLost_iff hname hperm hforall (operationIds_nodup _)]
    refine ⟨fun o ho => ?_, fun o _ => toolOutputId_notMem _ _⟩
    obtain ⟨last, hlast, hkeeps⟩ := hkept o ho
    refine h (fun d hd hrequired last' hlast' => ?_) _ last hlast hkeeps
    obtain ⟨o', ho', hid⟩ := hdeclared.complete d hd hrequired
    obtain ⟨found, hfound, hkeeps'⟩ := hkept o' ho'
    rw [hid] at hfound
    obtain rfl := Option.some.inj (hfound.symm.trans hlast')
    exact hkeeps'

end Dispatcher

/-! ### The evaluator -/

/-- The local identifiers that a job of an evaluator may use. -/
def jobNames (planned : List ToolOutputDeclaration) : List Identifier :=
  ["executor.stdout", "executor.stderr"] ++ measurementIds true true ++
    planned.map ToolOutputDeclaration.logicalId

/-- Nothing that is returned for the plan of an evaluator is lost, and what it is recorded under is
told apart from the streams, the measurements and their raw links. -/
def KeepsOutputs (artifactId : Identifier → Identifier) (planned : List ToolOutputDeclaration)
    (measured licensed : Bool) : Prop :=
  ∀ policy keep execution artifacts,
    recordExecutionArtifacts policy artifactId keep planned execution = .ok artifacts →
    NothingLost artifactId planned execution.outputs
      ((artifacts.drop 2).map EvaluationArtifact.record)
      ((artifacts.take 2).map (fun artifact => artifact.record.logicalId) ++
        (measurementIds measured licensed).map artifactId)

section Evaluator

variable {artifactId : Identifier → Identifier} {measured licensed : Bool}

lemma measurementIds_sub (h : id ∈ measurementIds measured licensed) :
    id ∈ measurementIds true true := by
  cases measured <;> cases licensed <;> simp_all [measurementIds]

lemma keepsOutputs_iff (hname : NoCollision artifactId (jobNames planned))
    (hreserved : validateReserved planned = .ok ⟨⟩) :
    KeepsOutputs artifactId planned measured licensed ↔
      (planned.map ToolOutputDeclaration.logicalId).Nodup ∧
        ∀ d ∈ planned, d.logicalId ∉ measurementIds measured licensed := by
  have hother : ∀ {id}, id ∈ ["executor.stdout", "executor.stderr"] ++
      measurementIds measured licensed → id ∈ jobNames planned := by
    intro id hid
    rcases List.mem_append.mp hid with hid | hid
    · exact List.mem_append_left _ (List.mem_append_left _ hid)
    · exact List.mem_append_left _ (List.mem_append_right _ (measurementIds_sub hid))
  have hdeclaredName : ∀ {id}, id ∈ planned.map ToolOutputDeclaration.logicalId →
      id ∈ jobNames planned := fun hid => List.mem_append_right _ hid
  have hothers : (["executor.stdout", "executor.stderr"].map artifactId ++
      (measurementIds measured licensed).map artifactId).Nodup := by
    rw [← List.map_append]
    refine List.Nodup.map_on (fun id hid id' hid' => hname id (hother hid) id' (hother hid')) ?_
    cases measured <;> cases licensed <;> decide
  have houtputs : NoCollision artifactId (planned.map ToolOutputDeclaration.logicalId) :=
    fun id hid id' hid' => hname id (hdeclaredName hid) id' (hdeclaredName hid')
  constructor
  · intro h
    obtain ⟨artifacts, hartifacts⟩ := exists_recordExecutionArtifacts artifactId
      { digest := "", sizeBytes := 0 }
    obtain ⟨hdeclared, sorted, hperm, hstreams, hrecords⟩ :=
      recordExecutionArtifacts_eq_ok hartifacts
    have hlost := h _ _ _ _ hartifacts
    rw [hstreams, hdeclared.nothingLost_iff houtputs hperm hrecords hothers] at hlost
    have hexists : ∀ d ∈ planned, ∃ o ∈ (keptOutputs (fun _ => true) planned
        { digest := "", sizeBytes := 0 }).outputs, o.logicalId = d.logicalId := by
      intro d hd
      obtain ⟨last, hlast⟩ := exists_declaration hd
      exact exists_keptOutputs hlast rfl
    constructor
    · rw [List.nodup_iff_count_le_one]
      intro id
      by_cases hid : id ∈ planned.map ToolOutputDeclaration.logicalId
      · obtain ⟨d, hd, rfl⟩ := List.mem_map.mp hid
        obtain ⟨o, ho, heq⟩ := hexists d hd
        have hone := hlost.1 o ho
        rw [heq] at hone
        rw [List.count_eq_countP, List.countP_map]
        exact hone.le
      · rw [List.count_eq_zero.mpr hid]
        exact Nat.zero_le 1
    · intro d hd hmem
      obtain ⟨o, ho, heq⟩ := hexists d hd
      exact hlost.2 o ho (List.mem_append_right _ (List.mem_map_of_mem (heq ▸ hmem)))
  · rintro ⟨hnodup, hfree⟩ policy keep execution artifacts hartifacts
    obtain ⟨hdeclared, sorted, hperm, hstreams, hrecords⟩ :=
      recordExecutionArtifacts_eq_ok hartifacts
    rw [hstreams, hdeclared.nothingLost_iff houtputs hperm hrecords hothers]
    refine ⟨fun o ho => ?_, fun o ho hmem => ?_⟩
    · obtain ⟨d, hd, hid, -⟩ := hdeclared.declared o ho
      exact hid ▸ countP_eq_one_of_nodup hnodup hd
    · obtain ⟨d, hd, hid, -⟩ := hdeclared.declared o ho
      rw [← List.map_append, List.mem_map] at hmem
      obtain ⟨id, hmem, hsame⟩ := hmem
      obtain rfl := hname id (hother hmem) _
        (hdeclaredName (hid ▸ List.mem_map_of_mem hd)) hsame
      rcases List.mem_append.mp hmem with hstream | hmeasured
      · exact raiseIf_eq_ok.mp hreserved ⟨d, hd, hid ▸ hstream⟩
      · exact hfree d hd (hid ▸ hmeasured)

end Evaluator

/-- When the two recorders keep every declared output. -/
theorem nothingLost_iff_distinct [Canonical] [RecordDigests] :
    (∀ (planned : List ToolOutputDeclaration) (runId : Digest) (jobId : Identifier)
      (measured licensed : Bool),
      NoCollision (executionArtifactId runId jobId) (jobNames planned) →
      validateReserved planned = .ok ⟨⟩ →
      (KeepsOutputs (executionArtifactId runId jobId) planned measured licensed ↔
        (planned.map ToolOutputDeclaration.logicalId).Nodup ∧
          ∀ d ∈ planned, d.logicalId ∉ measurementIds measured licensed)) ∧
    (∀ (runtime : ToolRuntime) (plan : ToolPlan runtime.dispatcher),
      NoCollision (toolOutputId plan.invocationDigest)
        (plan.outputs.map ToolOutputDeclaration.logicalId) →
      (KeepsOperationOutputs runtime plan ↔ RecordedOnce runtime plan)) :=
  ⟨fun _ _ _ _ _ => keepsOutputs_iff, fun _ _ => keepsOperationOutputs_iff⟩

/-! ### A log that is lost -/

section Report

local instance reportCanonical : Canonical := plainCanonical

local instance reportDigests : RecordDigests := joinedDigests

/-- Two files under one identifier: the log has to be there, but nothing is recorded for it. -/
def doubledPlan : List ToolOutputDeclaration :=
  [⟨"report", ["report.json"], "application/json", .evidence, true⟩,
   ⟨"report", ["run.log"], "text/plain", .diagnostic, true⟩]

theorem doubledPlan_loses_report :
    normalizeOutputs doubledPlan = .ok doubledPlan ∧ validateReserved doubledPlan = .ok ⟨⟩ ∧
    ∃ artifacts, recordExecutionArtifacts keptPolicy (executionArtifactId "run:t0" "j0")
        (fun _ => .ok ⟨⟩) doubledPlan
        (keptOutputs (fun _ => true) doubledPlan { digest := "d-out", sizeBytes := 0 }) =
          .ok artifacts ∧
      ∀ others, ¬ NothingLost (executionArtifactId "run:t0" "j0") doubledPlan
        (keptOutputs (fun _ => true) doubledPlan { digest := "d-out", sizeBytes := 0 }).outputs
        (artifacts.map EvaluationArtifact.record) others := by
  refine ⟨by decide +kernel, by decide, ?_⟩
  obtain ⟨artifacts, hartifacts⟩ := @exists_recordExecutionArtifacts doubledPlan
    (executionArtifactId "run:t0" "j0") { digest := "d-out", sizeBytes := 0 }
  refine ⟨artifacts, hartifacts, fun others hlost => ?_⟩
  have hone := hlost.sources ⟨"report", { digest := "d-out", sizeBytes := 0 }, "text/plain",
    .diagnostic⟩ (by decide)
  revert hone
  decide

/-- A report and a log, beside measurements with raw links and in a tool of a participant. -/
theorem nothingLost_iff_distinct_report :
    KeepsOutputs (executionArtifactId "run:t0" "j0") (lintPlan 60 (by decide) "q0").outputs true
        true ∧
      KeepsOperationOutputs licensedRuntime licensedPlan := by
  refine ⟨(nothingLost_iff_distinct.1 (lintPlan 60 (by decide) "q0").outputs "run:t0" "j0" true true
    (by decide +kernel) (by decide)).mpr ⟨by decide, by decide⟩,
    (nothingLost_iff_distinct.2 licensedRuntime licensedPlan (by decide +kernel)).mpr ?_⟩
  intro _ id last hlast _
  obtain ⟨hmem, rfl⟩ := declared_of_get? hlast
  exact countP_eq_one_of_nodup (by decide) hmem

end Report

end EdaGym
