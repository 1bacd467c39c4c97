import EdaGym.Run.JournalRecord

/-!
# The portable archive of a run

The archive is validated commit by commit. Besides the chain of digests and positions, it wants the
transcript of a provider request, and the evidence it first relies on, recorded in the commit of the
request. Appending knows no such rule, so a journal can be exported exactly when its batches were
grouped so.
-/

namespace EdaGym

section Journal

variable [Canonical] [JournalDigests]

/-! ### Validation -/

/-- The local variables of the archive validation. -/
structure RecordScan where
  expectedDigest : Digest
  expectedSequence : Nat := 0
  eventIds : List UUID := []
  referencedCanaryEvidence : List Identifier := []

/-- The logical identifiers of the artifacts an event list records. -/
def recordedArtifacts (events : List RunEvent) : List Identifier :=
  events.filterMap fun
    | .artifactRecorded event => some event.payload.record.logicalId
    | _ => none

/-- The evidence a provider request relies on. -/
def RunEvent.canaryEvidence? : RunEvent → Option Identifier
  | .providerRequestStarted event => some event.payload.securityEvidenceArtifactId
  | _ => none

def validateProviderCommit (recorded referenced : List Identifier) :
    RunEvent → Except JournalError Unit
  | .providerRequestStarted event => do
    raiseIf (event.payload.requestArtifactId ∉ recorded)
      (.valueError "provider request bytes must be committed with their request fact")
    raiseIf (event.payload.securityEvidenceArtifactId ∉ referenced ∧
        event.payload.securityEvidenceArtifactId ∉ recorded)
      (.valueError "first provider request must commit its canary evidence")
  | _ => .ok ⟨⟩

def validateRecordEvent (header : RunHeader) (recorded : List Identifier) (scan : RecordScan)
    (event : RunEvent) : Except JournalError RecordScan := do
  raiseIf (event.base.runId ≠ header.runId)
    (.valueError "run record event belongs to another run")
  raiseIf (event.base.sequence ≠ scan.expectedSequence)
    (.valueError "run record event sequence is not contiguous")
  raiseIf (event.eventId ∈ scan.eventIds)
    (.valueError "run record event identifier is duplicated")
  validateProviderCommit recorded scan.referencedCanaryEvidence event
  return { scan with
    expectedSequence := scan.expectedSequence + 1
    eventIds := scan.eventIds ++ [event.eventId]
    referencedCanaryEvidence := scan.referencedCanaryEvidence ++ event.canaryEvidence?.toList }

def validateRecordCommit (header : RunHeader) (scan : RecordScan) (commit : RunCommit) :
    Except JournalError RecordScan := do
  raiseIf (commit.previousRecordDigest ≠ scan.expectedDigest)
    (.valueError "run record hash chain is discontinuous")
  let scan ← foldSteps (validateRecordEvent header (recordedArtifacts commit.events)) scan
    commit.events
  return { scan with expectedDigest := commit.recordDigest }

def validateChain (header : RunHeader) (commits : List RunCommit) :
    Except JournalError RecordScan :=
  foldSteps (validateRecordCommit header) { expectedDigest := journalAnchor header } commits

/-- Portable archive of the immutable header and physical journal commits. -/
structure RunRecord where
  header : RunHeader
  commits : List RunCommit
  valid : ∃ scan, validateChain header commits = .ok scan

namespace RunRecord

def events (record : RunRecord) : List RunEvent := record.commits.flatMap RunCommit.events

def integrityDigest (record : RunRecord) : Digest :=
  match record.commits.getLast? with
  | none => journalAnchor record.header
  | some commit => commit.recordDigest

def build (header : RunHeader) (commits : List RunCommit) : Except JournalError RunRecord :=
  match h : validateChain header commits with
  | .error e => .error e
  | .ok scan => .ok { header, commits, valid := ⟨scan, h⟩ }

lemma build_eq_ok_iff {header : RunHeader} {commits : List RunCommit} {record : RunRecord} :
    build header commits = .ok record ↔ record.header = header ∧ record.commits = commits := by
  unfold build
  split
  · rename_i e he
    constructor
    · intro h
      cases h
    · rintro ⟨rfl, rfl⟩
      obtain ⟨scan, hscan⟩ := record.valid
      rw [hscan] at he
      cases he
  · constructor
    · intro h
      cases h
      exact ⟨rfl, rfl⟩
    · rintro ⟨rfl, rfl⟩
      rfl

end RunRecord

/-! ### Reading the journal -/

section Readers

variable [CommitCodec] (header : RunHeader) (task : TaskSpec) (data : Bytes)

/-- The durable prefix of the file, once it replays. -/
def readDurable : Except JournalError DurablePrefix := do
  let durable ← decodeDurablePrefix header data
  let _ ← replay header task durable.events
  return durable

def readEvents : Except JournalError (List RunEvent) :=
  (readDurable header task data).map DurablePrefix.events

/-- The current hash-chain head. -/
def integrityDigest : Except JournalError Digest :=
  (readDurable header task data).map DurablePrefix.headDigest

/-- A validated portable archive of the physical journal records. -/
def journalRecord : Except JournalError RunRecord := do
  let durable ← readDurable header task data
  RunRecord.build header durable.records

end Readers

/-! ### What the validation asks of the grouping -/

/-- A batch after the events `earlier` brings the transcript of each provider request in it, and
the evidence no earlier request relied on. -/
def GroupedAfter (earlier batch : List RunEvent) : Prop :=
  ∀ pre request post, batch = pre ++ .providerRequestStarted request :: post →
    request.payload.requestArtifactId ∈ recordedArtifacts batch ∧
    (request.payload.securityEvidenceArtifactId ∈
        (earlier ++ pre).filterMap RunEvent.canaryEvidence? ∨
      request.payload.securityEvidenceArtifactId ∈ recordedArtifacts batch)

def Grouped (commits : List RunCommit) : Prop :=
  ∀ before commit after, commits = before ++ commit :: after →
    GroupedAfter (eventsOf before) commit.events

section Validation

variable {header : RunHeader} {task : TaskSpec} {commits : List RunCommit}

/-- The checks of one event. -/
structure EventArchivable (header : RunHeader) (recorded : List Identifier) (scan : RecordScan)
    (event : RunEvent) : Prop where
  run : event.base.runId = header.runId
  sequence : event.base.sequence = scan.expectedSequence
  fresh : event.eventId ∉ scan.eventIds
  provider : validateProviderCommit recorded scan.referencedCanaryEvidence event = .ok ⟨⟩

/-- The scan after one more event. -/
def RecordScan.next (scan : RecordScan) (event : RunEvent) : RecordScan :=
  { scan with
    expectedSequence := scan.expectedSequence + 1
    eventIds := scan.eventIds ++ [event.eventId]
    referencedCanaryEvidence := scan.referencedCanaryEvidence ++ event.canaryEvidence?.toList }

def RecordScan.nextCommit (scan : RecordScan) (commit : RunCommit) : RecordScan :=
  { commit.events.foldl RecordScan.next scan with expectedDigest := commit.recordDigest }

omit [JournalDigests] in
lemma validateRecordEvent_eq_ok_iff {recorded : List Identifier} (scan : RecordScan)
    (event : RunEvent) (scan' : RecordScan) :
    validateRecordEvent header recorded scan event = .ok scan' ↔
      EventArchivable header recorded scan event ∧ scan' = scan.next event := by
  simp only [validateRecordEvent, bind_eq_ok, raiseIf_eq_ok, exists_const, pure_eq_ok, not_not]
  constructor
  · rintro ⟨hrun, hsequence, hfresh, _, hprovider, rfl⟩
    exact ⟨⟨hrun, hsequence, hfresh, hprovider⟩, rfl⟩
  · rintro ⟨h, rfl⟩
    exact ⟨h.run, h.sequence, h.fresh, ⟨⟩, h.provider, rfl⟩

/-- The checks of one commit. -/
structure CommitArchivable (header : RunHeader) (scan : RecordScan) (commit : RunCommit) :
    Prop where
  linked : commit.previousRecordDigest = scan.expectedDigest
  events : ∀ pre event post, commit.events = pre ++ event :: post →
    EventArchivable header (recordedArtifacts commit.events) (pre.foldl RecordScan.next scan) event

lemma validateRecordCommit_eq_ok_iff (scan : RecordScan) (commit : RunCommit)
    (scan' : RecordScan) :
    validateRecordCommit header scan commit = .ok scan' ↔
      CommitArchivable header scan commit ∧ scan' = scan.nextCommit commit := by
  simp only [validateRecordCommit, bind_eq_ok, raiseIf_eq_ok, exists_const, pure_eq_ok, not_not,
    foldSteps_eq_ok_iff validateRecordEvent_eq_ok_iff]
  constructor
  · rintro ⟨hlinked, _, ⟨hevents, rfl⟩, rfl⟩
    exact ⟨⟨hlinked, hevents⟩, rfl⟩
  · rintro ⟨h, rfl⟩
    exact ⟨h.linked, _, ⟨h.events, rfl⟩, rfl⟩

/-- The scan that `events` and a chain head leave. -/
def scanOf (digest : Digest) (events : List RunEvent) : RecordScan where
  expectedDigest := digest
  expectedSequence := events.length
  eventIds := events.map RunEvent.eventId
  referencedCanaryEvidence := events.filterMap RunEvent.canaryEvidence?

omit [JournalDigests] in
lemma foldl_next (digest : Digest) (events more : List RunEvent) :
    more.foldl RecordScan.next (scanOf digest events) = scanOf digest (events ++ more) := by
  induction more generalizing events with
  | nil => simp
  | cons event more ih =>
    have hnext : (scanOf digest events).next event = scanOf digest (events ++ [event]) := by
      cases h : event.canaryEvidence? <;> simp [scanOf, RecordScan.next, h]
    rw [List.foldl_cons, hnext, ih, List.append_assoc, List.singleton_append]

lemma foldl_nextCommit (header : RunHeader) (commits : List RunCommit) :
    commits.foldl RecordScan.nextCommit { expectedDigest := journalAnchor header } =
      scanOf (headDigest (journalAnchor header) commits) (eventsOf commits) := by
  induction commits using List.reverseRecOn with
  | nil => rfl
  | append_singleton commits commit ih =>
    rw [List.foldl_append, ih, List.foldl_cons, List.foldl_nil, RecordScan.nextCommit,
      foldl_next, headDigest_concat]
    simp [scanOf, eventsOf]

theorem validateChain_eq_ok_iff :
    (∃ scan, validateChain header commits = .ok scan) ↔
      ∀ before commit after, commits = before ++ commit :: after →
        CommitArchivable header
          (scanOf (headDigest (journalAnchor header) before) (eventsOf before)) commit := by
  simp only [validateChain, foldSteps_eq_ok_iff validateRecordCommit_eq_ok_iff, foldl_nextCommit]
  constructor
  · rintro ⟨_, hall, -⟩
    exact hall
  · intro hall
    exact ⟨_, hall, rfl⟩

omit [JournalDigests] in
lemma validateProviderCommit_eq_ok_iff {recorded referenced : List Identifier}
    {event : RunEvent} :
    validateProviderCommit recorded referenced event = .ok ⟨⟩ ↔
      ∀ request, event = .providerRequestStarted request →
        request.payload.requestArtifactId ∈ recorded ∧
        (request.payload.securityEvidenceArtifactId ∈ referenced ∨
          request.payload.securityEvidenceArtifactId ∈ recorded) := by
  cases event with
  | providerRequestStarted request =>
    simp only [validateProviderCommit, bind_eq_ok, raiseIf_eq_ok, exists_const, not_not,
      RunEvent.providerRequestStarted.injEq, forall_eq']
    rw [not_and_or, not_not, not_not]
  | _ => simp [validateProviderCommit]

lemma chained_split {digest : Digest} {before after : List RunCommit} {commit : RunCommit}
    (h : Chained digest (before ++ commit :: after)) :
    commit.previousRecordDigest = headDigest digest before := by
  induction before generalizing digest with
  | nil => exact h.1
  | cons c before ih =>
    rw [headDigest_cons]
    exact ih h.2

omit [JournalDigests] in
/-- Each event of a journal that replays stands at its position and is new there. -/
lemma archivable_of_replay {st : ReplayState} {events pre post : List RunEvent}
    {event : RunEvent} (hloop : replayLoop header task events = .ok st)
    (hevents : events = pre ++ event :: post) :
    event.base.runId = header.runId ∧ event.base.sequence = pre.length ∧
      event.eventId ∉ pre.map RunEvent.eventId := by
  have hat : events[pre.length]? = some event := by
    rw [hevents, List.getElem?_append_right (Nat.le_refl _), Nat.sub_self]
    rfl
  obtain ⟨st', l, hst', hadm⟩ := replayLoop_admitted hloop hat
  have hprior := replayLoop_prior hst'
  rw [hevents, List.take_left] at hprior
  refine ⟨hadm.envelope.run, ?_, ?_⟩
  · rw [hadm.envelope.sequence, hprior]
  · have hfresh := hadm.envelope.fresh
    rwa [hprior] at hfresh

/-- The archive of a chain of commits that replays is valid exactly when they are grouped. -/
theorem validateChain_iff_grouped {st : ReplayState}
    (hchain : Chained (journalAnchor header) commits)
    (hloop : replayLoop header task (eventsOf commits) = .ok st) :
    (∃ scan, validateChain header commits = .ok scan) ↔ Grouped commits := by
  rw [validateChain_eq_ok_iff]
  constructor
  · intro hall before commit after hcommits pre request post hbatch
    have hprovider := ((hall before commit after hcommits).events pre _ post hbatch).provider
    rw [foldl_next] at hprovider
    exact validateProviderCommit_eq_ok_iff.mp hprovider request rfl
  · intro hgrouped before commit after hcommits
    refine ⟨?_, ?_⟩
    · rw [hcommits] at hchain
      exact chained_split hchain
    · intro pre event post hbatch
      have hevents : eventsOf commits =
          (eventsOf before ++ pre) ++ event :: (post ++ eventsOf after) := by
        rw [hcommits]
        simp [eventsOf, hbatch]
      obtain ⟨hrun, hsequence, hfresh⟩ := archivable_of_replay hloop hevents
      rw [foldl_next]
      refine ⟨hrun, hsequence, hfresh, validateProviderCommit_eq_ok_iff.mpr ?_⟩
      rintro request rfl
      exact hgrouped before commit after hcommits pre request post hbatch

end Validation

/-! ### Exporting a journal -/

/-- What creating a journal checks of the task it is opened with. -/
structure JournalBound (header : RunHeader) (task : TaskSpec) : Prop where
  digest : task.digest = header.binding.task.taskSpecDigest
  binding : validateTaskBinding header task = .ok ⟨⟩

variable {header : RunHeader} {task : TaskSpec}

omit [JournalDigests] in
lemma JournalBound.replay_nil
    (h : JournalBound header task) : ∃ state, replay header task [] = .ok state := by
  refine ⟨_, replay_eq_ok_iff.mpr
    ⟨h.digest, h.binding, ReplayState.initial header, {}, rfl, rfl, ?_, rfl⟩⟩
  rintro ⟨hne, -⟩
  exact hne rfl

variable [CommitCodec]

lemma JournalShape.readDurable {committed : List RunCommit} {torn file : Bytes} {state : RunState}
    (h : JournalShape header committed torn file)
    (hstate : replay header task (eventsOf committed) = .ok state) :
    EdaGym.readDurable header task file = .ok (durablePrefix header committed) := by
  simp only [EdaGym.readDurable, bind_eq_ok, pure_eq_ok]
  exact ⟨_, h.decode, state, hstate, rfl⟩

lemma JournalShape.record_eq_ok_iff
    {committed : List RunCommit} {torn file : Bytes} {state : RunState} {record : RunRecord}
    (h : JournalShape header committed torn file)
    (hstate : replay header task (eventsOf committed) = .ok state) :
    journalRecord header task file = .ok record ↔
      record.header = header ∧ record.commits = committed := by
  rw [journalRecord, h.readDurable hstate, ← RunRecord.build_eq_ok_iff]
  rfl

/-- The archive is returned, with the events and the chain head of the journal. -/
def Exports (header : RunHeader) (task : TaskSpec) (file : Bytes) : Prop :=
  ∃ record, journalRecord header task file = .ok record ∧
    readEvents header task file = .ok record.events ∧
    integrityDigest header task file = .ok record.integrityDigest

/-- After any history of calls the journal can be exported exactly when its batches were grouped
as the archive wants. -/
theorem journal_exports_iff (header : RunHeader) (task : TaskSpec)
    (bound : JournalBound header task) (attempted committed : List RunCommit) (file : Bytes)
    (history : History header task attempted committed file)
    (encodes : ∀ c ∈ attempted, Encodes c) :
    Exports header task file ↔ Grouped committed := by
  obtain ⟨torn, h⟩ := history.shape encodes
  obtain ⟨state, hstate⟩ : ∃ state, replay header task (eventsOf committed) = .ok state := by
    by_cases hne : committed = []
    · subst hne
      exact bound.replay_nil
    · exact history.replays encodes hne
  obtain ⟨-, -, st, -, hloop, -⟩ := replay_eq_ok_iff.mp hstate
  rw [← validateChain_iff_grouped h.chained hloop]
  constructor
  · rintro ⟨record, hbuild, -⟩
    obtain ⟨hheader, hcommits⟩ := (h.record_eq_ok_iff hstate).mp hbuild
    rw [← hheader, ← hcommits]
    exact record.valid
  · intro hvalid
    refine ⟨⟨header, committed, hvalid⟩, (h.record_eq_ok_iff hstate).mpr ⟨rfl, rfl⟩, ?_, ?_⟩
    · rw [readEvents, h.readDurable hstate]
      rfl
    · rw [integrityDigest, h.readDurable hstate]
      simp only [Except.map, durablePrefix, RunRecord.integrityDigest, headDigest]
      cases committed.getLast? <;> rfl

end Journal

/-! ### A request apart from its transcript -/

section SplitRequest

local instance exportCanonical : Canonical := plainCanonical
local instance exportDigests : JournalDigests := plainDigests

/-- The small run's header, with a harness as its only actor. -/
def harnessHeader : RunHeader where
  runId := "run:t0"
  binding := {
    gateHeader.binding with
    session := {
      sessionSpecDigest := "d-ses", actors := [.harness "h0" "d-h0" "d-sc" "m0"]
      initialWriter := "h0", handoffEnabled := false, feedbackPolicyDigest := "d-fb"
      budgetDigest := "d-bud" }
    purpose_iff := standard_trialless
    evaluators_sorted := gateEvaluators_sorted }
  runId_eq := by decide

/-- The start of the run, the transcript of a request and the evidence it relies on. -/
def transcriptEvents : List RunEvent :=
  [.runStarted {
     toEventBase := gateBase 0 .controller
     payload := { bindingDigest := "run:t0" } },
   .artifactRecorded {
     toEventBase := gateBase 1 .controller
     payload := { record := {
       logicalId := "q0.request", blob := { digest := "d-q0", sizeBytes := 1 }
       mediaType := PROVIDER_TRANSCRIPT_MEDIA_TYPE, artifactClass := .training
       sensitivity := .confidential, visibility := .author, redistribution := .forbidden } } },
   .artifactRecorded {
     toEventBase := gateBase 2 .controller
     payload := { record := {
       logicalId := "canary", blob := { digest := "d-canary", sizeBytes := 1 }
       mediaType := PROVIDER_CANARY_EVIDENCE_MEDIA_TYPE, artifactClass := .evidence
       sensitivity := .confidential, visibility := .author, redistribution := .forbidden } } }]

def requestEvent : RunEvent :=
  .providerRequestStarted {
    runId := "run:t0"
    sequence := 3
    eventId := 3
    timestamp := 3
    producer := .controller
    visibility := .author
    artifactRefs := ["canary", "q0.request"]
    refs_sorted := by decide
    payload := {
      requestId := "q0", actorId := "h0", requestArtifactId := "q0.request"
      securityEvidenceArtifactId := "canary", providerProfileDigest := "d-pp"
      providerConfigDigest := "d-pc", requestedModel := "m0"
      securityBinding := { canaryReceiptDigest := "d-cr", runtimeSurfaceManifestDigest := "d-rs"
                           budgetBindingDigest := "d-bb" }
      reservedInputTokens := 1, reservedOutputTokens := 1 }
    artifacts_ne := by decide
    refs_eq := by
      intro a
      rw [List.mem_pair]
      exact or_comm }

def transcriptCommit : RunCommit where
  previousRecordDigest := "anchor:run:t0"
  events := transcriptEvents
  recordDigest := "anchor:run:t0/3"
  events_ne_nil := by decide
  digest_eq := by decide

def requestCommit : RunCommit where
  previousRecordDigest := "anchor:run:t0/3"
  events := [requestEvent]
  recordDigest := "anchor:run:t0/3/1"
  events_ne_nil := by decide
  digest_eq := by decide

/-- The same events in one commit. -/
def groupedCommit : RunCommit where
  previousRecordDigest := "anchor:run:t0"
  events := transcriptEvents ++ [requestEvent]
  recordDigest := "anchor:run:t0/4"
  events_ne_nil := by decide
  digest_eq := by decide

@[reducible] def exportCodec : CommitCodec where
  commitBytes := plainCommitBytes
  eventBytes e := asciiBytes (toString e.base.sequence)
  validateCommit line := [transcriptCommit, requestCommit, groupedCommit].find? fun c =>
    plainCommitBytes c = line

local instance splitRequestCodec : CommitCodec := exportCodec

lemma exportCommits_encode : ∀ c ∈ [transcriptCommit, requestCommit, groupedCommit], Encodes c := by
  decide +kernel

def transcriptCall : JournalCall :=
  (JournalOperation.append transcriptEvents).call soundDisk harnessHeader gateTask []

def requestCall : JournalCall :=
  (JournalOperation.append [requestEvent]).call soundDisk harnessHeader gateTask
    (commitLines [transcriptCommit])

def groupedCall : JournalCall :=
  (JournalOperation.append (transcriptEvents ++ [requestEvent])).call soundDisk harnessHeader
    gateTask []

/-- What the three appends return, record and write. -/
lemma exportCalls :
    (transcriptCall.result.isOk = true ∧ transcriptCall.record = some transcriptCommit ∧
      FileEffect.applyAll [] transcriptCall.effects = commitLines [transcriptCommit]) ∧
    (requestCall.result.isOk = true ∧ requestCall.record = some requestCommit ∧
      FileEffect.applyAll (commitLines [transcriptCommit]) requestCall.effects =
        commitLines [transcriptCommit, requestCommit]) ∧
    groupedCall.result.isOk = true ∧ groupedCall.record = some groupedCommit ∧
      FileEffect.applyAll [] groupedCall.effects = commitLines [groupedCommit] := by
  decide +kernel

lemma splitRequest_history : History harnessHeader gateTask [transcriptCommit, requestCommit]
    [transcriptCommit, requestCommit] (commitLines [transcriptCommit, requestCommit]) := by
  obtain ⟨⟨hok, hrecord, hfile⟩, ⟨hok', hrecord', hfile'⟩, -⟩ := exportCalls
  obtain ⟨state, hstate⟩ := Except.exists_of_isOk hok
  have hstart : History harnessHeader gateTask ([] ++ transcriptCall.record.toList)
      ([] ++ transcriptCall.record.toList) (FileEffect.applyAll [] transcriptCall.effects) :=
    History.created.returned _ _ state hstate
  rw [hrecord, hfile] at hstart
  obtain ⟨state', hstate'⟩ := Except.exists_of_isOk hok'
  have hrequest : History harnessHeader gateTask ([transcriptCommit] ++ requestCall.record.toList)
      ([transcriptCommit] ++ requestCall.record.toList)
      (FileEffect.applyAll (commitLines [transcriptCommit]) requestCall.effects) :=
    hstart.returned _ _ state' hstate'
  rwa [hrecord', hfile'] at hrequest

/-- Both appends return, and the journal cannot be exported. -/
theorem splitRequest_not_exported :
    JournalBound harnessHeader gateTask ∧
    History harnessHeader gateTask [transcriptCommit, requestCommit]
      [transcriptCommit, requestCommit] (commitLines [transcriptCommit, requestCommit]) ∧
    ∀ record, journalRecord harnessHeader gateTask
      (commitLines [transcriptCommit, requestCommit]) ≠ .ok record := by
  have hencodes : ∀ c ∈ [transcriptCommit, requestCommit], Encodes c := fun c hc =>
    exportCommits_encode c (List.mem_append_left [groupedCommit] hc)
  obtain ⟨torn, h⟩ := splitRequest_history.shape hencodes
  obtain ⟨state, hstate⟩ := splitRequest_history.replays hencodes (by simp)
  refine ⟨⟨by decide, by decide +kernel⟩, splitRequest_history, ?_⟩
  intro record hrecord
  obtain ⟨hheader, hcommits⟩ := (h.record_eq_ok_iff hstate).mp hrecord
  obtain ⟨scan, hscan⟩ := record.valid
  rw [hheader, hcommits] at hscan
  have herror : (validateChain harnessHeader [transcriptCommit, requestCommit]).isOk = false := by
    decide +kernel
  rw [hscan] at herror
  cases herror

lemma groupedRequest_history : History harnessHeader gateTask [groupedCommit] [groupedCommit]
    (commitLines [groupedCommit]) := by
  obtain ⟨-, -, hok, hrecord, hfile⟩ := exportCalls
  obtain ⟨state, hstate⟩ := Except.exists_of_isOk hok
  have hstart : History harnessHeader gateTask ([] ++ groupedCall.record.toList)
      ([] ++ groupedCall.record.toList) (FileEffect.applyAll [] groupedCall.effects) :=
    History.created.returned _ _ state hstate
  rwa [hrecord, hfile] at hstart

/-- Committed as one batch, the same events are exported. -/
theorem groupedRequest_exported :
    Exports harnessHeader gateTask (commitLines [groupedCommit]) := by
  have hencodes : ∀ c ∈ [groupedCommit], Encodes c := fun c hc =>
    exportCommits_encode c (List.mem_append_right [transcriptCommit, requestCommit] hc)
  refine (journal_exports_iff harnessHeader gateTask ⟨by decide, by decide +kernel⟩ _ _ _
    groupedRequest_history hencodes).mpr ?_
  obtain ⟨state, hstate⟩ := groupedRequest_history.replays hencodes (by simp)
  obtain ⟨-, -, st, -, hloop, -⟩ := replay_eq_ok_iff.mp hstate
  have hchain : Chained (journalAnchor harnessHeader) [groupedCommit] := ⟨by decide, trivial⟩
  refine (validateChain_iff_grouped hchain hloop).mp (Except.exists_of_isOk ?_)
  decide +kernel

end SplitRequest

end EdaGym
