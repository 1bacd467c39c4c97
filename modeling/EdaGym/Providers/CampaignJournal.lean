import EdaGym.Providers.CampaignLedger
import EdaGym.Providers.CampaignRunner
import EdaGym.Run.JournalCrash

/-!
# The campaign journal as a file

Every line of the file is the canonical encoding of one hash-chained commit. The runners of a
campaign hold the file lock during a whole call, so their calls never overlap, but any call may be
cut short and leave a torn record behind.
-/

namespace EdaGym

section Journal

variable [Canonical] [CampaignCanonical]

/-- The links of the hash chain. -/
class CampaignDigests where
  headerDigest : CampaignHeader → Digest
  campaignCommitDigest : Digest → List CampaignEvent → Digest

export CampaignDigests (headerDigest campaignCommitDigest)

variable [CampaignDigests]

/-- One crash-atomic, hash-chained group of campaign events. -/
structure CampaignCommit where
  previousRecordDigest : Digest
  events : List CampaignEvent
  recordDigest : Digest
  events_ne_nil : events ≠ []
  digest_eq : recordDigest = campaignCommitDigest previousRecordDigest events

/-- Canonical JSON of commits, and the validation of a line as a commit. -/
class CampaignCodec where
  campaignCommitBytes : CampaignCommit → Bytes
  validateCampaignCommit : Bytes → Option CampaignCommit

export CampaignCodec (campaignCommitBytes validateCampaignCommit)

variable [CampaignCodec]

inductive CampaignJournalError
  | corruption (message : String)
  | conflict (message : String)
  | valueError (message : String)
  | osError (message : String)
  | raised (error : CampaignError)
deriving DecidableEq, Repr

def CampaignCommit.fromEvents (previousRecordDigest : Digest) (events : List CampaignEvent) :
    Except CampaignJournalError CampaignCommit :=
  if h : events = [] then .error (.valueError "events")
  else .ok {
    previousRecordDigest
    events
    recordDigest := campaignCommitDigest previousRecordDigest events
    events_ne_nil := h
    digest_eq := rfl }

/-! ### Records -/

/-- What the validator of a record expects next, and the identifiers it has seen. -/
structure ChainScan where
  expectedDigest : Digest
  expectedSequence : Nat := 0
  eventIds : List UUID := []

def chainEvent (scan : ChainScan) (event : CampaignEvent) : Except String ChainScan := do
  raiseIf (event.sequence ≠ scan.expectedSequence) "campaign event sequence is not contiguous"
  raiseIf (event.eventId ∈ scan.eventIds) "campaign event identifier is duplicated"
  return { scan with
    expectedSequence := scan.expectedSequence + 1
    eventIds := event.eventId :: scan.eventIds }

def chainCommit (scan : ChainScan) (commit : CampaignCommit) : Except String ChainScan := do
  raiseIf (commit.previousRecordDigest ≠ scan.expectedDigest)
    "campaign record hash chain is discontinuous"
  let scan ← foldSteps chainEvent scan commit.events
  return { scan with expectedDigest := commit.recordDigest }

def validateCampaignChain (header : CampaignHeader) (commits : List CampaignCommit) :
    Except String ChainScan :=
  foldSteps chainCommit { expectedDigest := headerDigest header } commits

/-- The commits of a campaign; they continue each other. -/
structure CampaignRecord where
  header : CampaignHeader
  commits : List CampaignCommit
  chained : ∃ scan, validateCampaignChain header commits = .ok scan

def campaignRecord (header : CampaignHeader) (commits : List CampaignCommit) :
    Except CampaignJournalError CampaignRecord :=
  match h : validateCampaignChain header commits with
  | .ok scan => .ok { header, commits, chained := ⟨scan, h⟩ }
  | .error message => .error (.valueError message)

def CampaignRecord.events (record : CampaignRecord) : List CampaignEvent :=
  record.commits.flatMap CampaignCommit.events

def replayCampaignRecord (record : CampaignRecord) : Except CampaignError CampaignProjection :=
  replayCampaign record.header record.events

/-! ### Reading -/

structure DurableCampaign where
  durableLength : Nat
  headDigest : Digest
  commits : List CampaignCommit

/-- Check one durable line against the chain and take its commit over. -/
def decodeCampaignCommit (acc : DurableCampaign) (line : Bytes) :
    Except CampaignJournalError DurableCampaign := do
  raiseIf (line = []) (.corruption "campaign journal contains an empty record")
  let commit ← orRaise (validateCampaignCommit line)
    (.corruption "campaign journal contains an invalid record")
  raiseIf (campaignCommitBytes commit ≠ line)
    (.corruption "campaign journal record is not canonical")
  raiseIf (commit.previousRecordDigest ≠ acc.headDigest)
    (.corruption "campaign journal hash chain is discontinuous")
  return { acc with commits := acc.commits ++ [commit], headDigest := commit.recordDigest }

def decodeCampaignPrefix (header : CampaignHeader) (data : Bytes) :
    Except CampaignJournalError DurableCampaign :=
  let start : DurableCampaign :=
    { durableLength := 0, headDigest := headerDigest header, commits := [] }
  if data = [] then .ok start
  else do
    let length := durableLength data
    let durable ← foldSteps decodeCampaignCommit { start with durableLength := length }
      (splitlines (data.take length))
    let _ ← campaignRecord header durable.commits
    return durable

/-- `CampaignJournal.record`. -/
def readCampaignRecord (header : CampaignHeader) (data : Bytes) :
    Except CampaignJournalError CampaignRecord := do
  let durable ← decodeCampaignPrefix header data
  campaignRecord header durable.commits

/-! ### Writing -/

/-- What one call does to the file, the commit it sets out to append, and what it returns. -/
structure CampaignCall where
  effects : List FileEffect
  commit : Option CampaignCommit := none
  result : Except CampaignJournalError CampaignRecord

/-- The events that a transaction builds from the latest record. -/
abbrev CampaignFactory := CampaignRecord → Except CampaignJournalError (List CampaignEvent)

/-- Build and validate one event group against the durable record. -/
def decideCampaign (header : CampaignHeader) (factory : CampaignFactory)
    (durable : DurableCampaign) :
    Except CampaignJournalError (CampaignRecord × CampaignCommit) := do
  let record ← campaignRecord header durable.commits
  let requested ← factory record
  raiseIf (requested = [])
    (.valueError "a campaign transaction must contain at least one event")
  raiseIf (requested.map CampaignEvent.sequence ≠
      List.range' record.events.length requested.length)
    (.conflict "campaign transaction does not own its event positions")
  raiseIf (¬ (requested.map CampaignEvent.eventId).Nodup ∨
      ∃ e ∈ requested, e.eventId ∈ record.events.map CampaignEvent.eventId)
    (.conflict "campaign event identifier is already owned")
  let commit ← CampaignCommit.fromEvents durable.headDigest requested
  let prospective ← campaignRecord header (durable.commits ++ [commit])
  let _ ← (replayCampaignRecord prospective).mapError .raised
  return (prospective, commit)

/-- `CampaignJournal.transact`: drop the torn tail, then append what the factory asks for. What a
flush that raises was to make durable stays in the file. -/
def transactCampaignFile (disk : Disk) (header : CampaignHeader)
    (factory : CampaignFactory) (data : Bytes) : CampaignCall :=
  match decodeCampaignPrefix header data with
  | .error e => { effects := [], result := .error e }
  | .ok durable =>
    if truncateTail data durable.durableLength ≠ [] ∧ disk.flushTruncated = false then
      { effects := truncateTail data durable.durableLength
        result := .error (.osError "Input/output error") }
    else
      match decideCampaign header factory durable with
      | .error e => { effects := truncateTail data durable.durableLength, result := .error e }
      | .ok (prospective, commit) =>
        let writes := writeAllFd disk.write (campaignCommitBytes commit ++ [LF])
        { effects := truncateTail data durable.durableLength ++ writes.1
          commit := some commit
          result :=
            if writes.2 = false then
              .error (.osError "short write while committing campaign journal data")
            else if disk.flushWritten then .ok prospective
            else .error (.osError "Input/output error") }

/-! ### Histories -/

/-- `CampaignHistory header attempted committed file`: the runners have called `transact` in some
order; each call returned, raised or was cut short. They set out to append the commits `attempted`
and left `file`. The commits whose line feed was written are `committed`. -/
inductive CampaignHistory (header : CampaignHeader) :
    List CampaignCommit → List CampaignCommit → Bytes → Prop
  | created : CampaignHistory header [] [] []
  | returned {attempted committed : List CampaignCommit} {file : Bytes}
      (prior : CampaignHistory header attempted committed file)
      (factory : CampaignFactory) (disk : Disk) (record : CampaignRecord)
      (result_eq : (transactCampaignFile disk header factory file).result = .ok record) :
      CampaignHistory header
        (attempted ++ (transactCampaignFile disk header factory file).commit.toList)
        (committed ++ (transactCampaignFile disk header factory file).commit.toList)
        (FileEffect.applyAll file (transactCampaignFile disk header factory file).effects)
  | raised {attempted committed : List CampaignCommit} {file : Bytes}
      (prior : CampaignHistory header attempted committed file)
      (factory : CampaignFactory) (disk : Disk) (error : CampaignJournalError)
      (result_eq : (transactCampaignFile disk header factory file).result = .error error) :
      CampaignHistory header
        (attempted ++ (transactCampaignFile disk header factory file).commit.toList)
        (committed ++
          if LF ∈ FileEffect.written (transactCampaignFile disk header factory file).effects then
            (transactCampaignFile disk header factory file).commit.toList else [])
        (FileEffect.applyAll file (transactCampaignFile disk header factory file).effects)
  | crashed {attempted committed : List CampaignCommit} {file file' bytes : Bytes}
      (prior : CampaignHistory header attempted committed file)
      (factory : CampaignFactory) (disk : Disk)
      (interrupted : FileEffect.Interrupted
        (transactCampaignFile disk header factory file).effects file file' bytes) :
      CampaignHistory header
        (attempted ++ (transactCampaignFile disk header factory file).commit.toList)
        (committed ++ if LF ∈ bytes then
          (transactCampaignFile disk header factory file).commit.toList else [])
        file'

/-! ### The file of a history -/

/-- The encoding of this commit is one line that is read back as the commit. -/
structure CampaignEncodes (commit : CampaignCommit) : Prop where
  clean : Clean (campaignCommitBytes commit)
  ne_nil : campaignCommitBytes commit ≠ []
  valid : validateCampaignCommit (campaignCommitBytes commit) = some commit

/-- The file holds these commits, which form an accepted record. -/
structure CampaignShape (header : CampaignHeader) (committed : List CampaignCommit)
    (torn file : Bytes) : Prop where
  log : LogShape campaignCommitBytes committed torn file
  encodes : ∀ c ∈ committed, CampaignEncodes c
  chained : ∃ scan, validateCampaignChain header committed = .ok scan
  replays : ∃ state, replayCampaign header (committed.flatMap CampaignCommit.events) = .ok state

/-- The record of these commits. -/
def CampaignShape.record {header : CampaignHeader} {committed : List CampaignCommit}
    {torn file : Bytes} (h : CampaignShape header committed torn file) : CampaignRecord :=
  { header, commits := committed, chained := h.chained }

section Shape

variable {header : CampaignHeader} {committed : List CampaignCommit} {torn file : Bytes}

section

omit [CampaignCanonical] [CampaignCodec]

lemma campaignRecord_eq_ok {record : CampaignRecord} :
    campaignRecord header committed = .ok record ↔
      record.header = header ∧ record.commits = committed := by
  unfold campaignRecord
  split
  · rename_i scan hscan
    constructor
    · intro h
      cases h
      exact ⟨rfl, rfl⟩
    · rintro ⟨rfl, rfl⟩
      rfl
  · rename_i message hmessage
    constructor
    · intro h
      cases h
    · rintro ⟨rfl, rfl⟩
      obtain ⟨scan, hscan⟩ := record.chained
      rw [hmessage] at hscan
      cases hscan

lemma chainCommit_eq_ok {scan scan' : ChainScan} {commit : CampaignCommit}
    (h : chainCommit scan commit = .ok scan') :
    commit.previousRecordDigest = scan.expectedDigest ∧
      scan'.expectedDigest = commit.recordDigest := by
  simp only [chainCommit, bind_eq_ok, raiseIf_eq_ok, exists_const, pure_eq_ok, not_not] at h
  obtain ⟨hlink, mid, -, rfl⟩ := h
  exact ⟨hlink, rfl⟩

end

omit [CampaignCanonical] in
/-- Reading the lines of a chain of commits takes over all of them. -/
lemma decodeCampaign_lines {commits : List CampaignCommit}
    (henc : ∀ c ∈ commits, CampaignEncodes c) {scan scan' : ChainScan}
    (hchain : foldSteps chainCommit scan commits = .ok scan') {acc : DurableCampaign}
    (hhead : acc.headDigest = scan.expectedDigest) :
    foldSteps decodeCampaignCommit acc (commits.map campaignCommitBytes) = .ok { acc with
      commits := acc.commits ++ commits
      headDigest := scan'.expectedDigest } := by
  induction commits generalizing scan acc with
  | nil =>
    cases hchain
    simp [← hhead]
  | cons commit commits ih =>
    rw [List.forall_mem_cons] at henc
    obtain ⟨mid, hstep, hrest⟩ := foldSteps_cons_eq_ok.mp hchain
    obtain ⟨hlink, hdigest⟩ := chainCommit_eq_ok hstep
    rw [List.map_cons, foldSteps_cons_eq_ok]
    refine ⟨{ acc with commits := acc.commits ++ [commit], headDigest := commit.recordDigest },
      ?_, ?_⟩
    · simp only [decodeCampaignCommit, bind_eq_ok, raiseIf_eq_ok, orRaise_eq_ok, exists_const,
        pure_eq_ok, not_not]
      exact ⟨henc.1.ne_nil, commit, henc.1.valid, rfl, hlink.trans hhead.symm, rfl⟩
    · rw [ih henc.2 hrest hdigest.symm]
      simp

/-- What reading the file returns. -/
lemma CampaignShape.decode (h : CampaignShape header committed torn file) :
    ∃ head, decodeCampaignPrefix header file = .ok {
      durableLength := (recordLines campaignCommitBytes committed).length
      headDigest := head
      commits := committed } := by
  obtain ⟨scan, hscan⟩ := h.chained
  refine ⟨scan.expectedDigest, ?_⟩
  rw [decodeCampaignPrefix]
  by_cases hfile : file = []
  · obtain rfl := h.log.eq_nil hfile
    rw [if_pos hfile]
    cases hscan
    rfl
  · have hlines := h.log.splitlines fun c hc => (h.encodes c hc).clean
    rw [h.log.durableLength] at hlines
    have hrecord : campaignRecord header committed = .ok h.record :=
      campaignRecord_eq_ok.mpr ⟨rfl, rfl⟩
    rw [if_neg hfile]
    simp only [h.log.durableLength, hlines]
    rw [decodeCampaign_lines h.encodes hscan rfl, ok_bind, List.nil_append]
    dsimp only
    rw [hrecord, ok_bind]
    rfl

lemma CampaignShape.read (h : CampaignShape header committed torn file) :
    readCampaignRecord header file = .ok h.record := by
  obtain ⟨head, hdecode⟩ := h.decode
  rw [readCampaignRecord, hdecode, ok_bind]
  exact campaignRecord_eq_ok.mpr ⟨rfl, rfl⟩

/-! ### Transactions -/

omit [CampaignCanonical] [CampaignCodec] in
lemma CampaignCommit.fromEvents_eq_ok {digest : Digest} {events : List CampaignEvent}
    {commit : CampaignCommit} (h : CampaignCommit.fromEvents digest events = .ok commit) :
    commit.events = events := by
  unfold CampaignCommit.fromEvents at h
  split at h
  · cases h
  · cases h
    rfl

variable {factory : CampaignFactory}

omit [CampaignCodec] in
/-- A transaction that is admitted commits what the factory built from the durable record, and the
accounting of the runner admits it. -/
lemma decideCampaign_eq_ok {durable : DurableCampaign}
    {prospective : CampaignRecord} {commit : CampaignCommit}
    (h : decideCampaign header factory durable = .ok (prospective, commit)) :
    ∃ record, campaignRecord header durable.commits = .ok record ∧
      factory record = .ok commit.events ∧
      prospective.header = header ∧ prospective.commits = durable.commits ++ [commit] ∧
      transactCampaign header record.events commit.events = .ok prospective.events ∧
      ∃ state, replayCampaignRecord prospective = .ok state := by
  simp only [decideCampaign, bind_eq_ok, raiseIf_eq_ok, exists_const, pure_eq_ok, Prod.mk.injEq,
    not_not] at h
  obtain ⟨record, hrecord, requested, hfactory, hne, hpositions, hids, commit', hcommit,
    prospective', hprospective, state, hstate, rfl, rfl⟩ := h
  have hevents := CampaignCommit.fromEvents_eq_ok hcommit
  obtain ⟨hheader, hcommits⟩ := campaignRecord_eq_ok.mp hprospective
  obtain ⟨-, hcommits'⟩ := campaignRecord_eq_ok.mp hrecord
  have hreplay : ∃ state, replayCampaignRecord prospective' = .ok state := by
    cases hreplay : replayCampaignRecord prospective' with
    | ok state => exact ⟨state, rfl⟩
    | error e =>
      rw [hreplay] at hstate
      cases hstate
  refine ⟨record, hrecord, hevents ▸ hfactory, hheader, hcommits, ?_, hreplay⟩
  have hall : prospective'.events = record.events ++ requested := by
    simp [CampaignRecord.events, hcommits, hcommits', hevents]
  obtain ⟨state, hstate⟩ := hreplay
  rw [replayCampaignRecord, hheader, hall] at hstate
  rw [hevents]
  simp only [transactCampaign, raiseIf, if_neg hne, hpositions, ne_eq, not_true_eq_false, if_false,
    if_neg hids, ok_bind, hstate, hall]
  rfl

/-- What a call on the file of these commits does. -/
structure CampaignCallSpec (header : CampaignHeader) (committed : List CampaignCommit)
    (record : CampaignRecord) (factory : CampaignFactory) (file : Bytes) (disk : Disk)
    (call : CampaignCall) (writes : List FileEffect) : Prop where
  log : LogWrites campaignCommitBytes committed file call.commit call.effects writes
  built : ∀ commit ∈ call.commit, factory record = .ok commit.events ∧
    transactCampaign header record.events commit.events =
      .ok ((committed ++ [commit]).flatMap CampaignCommit.events)
  chained : ∀ commit ∈ call.commit,
    ∃ scan, validateCampaignChain header (committed ++ [commit]) = .ok scan
  replays : ∀ commit ∈ call.commit, ∃ state,
    replayCampaign header ((committed ++ [commit]).flatMap CampaignCommit.events) = .ok state
  returned : ∀ prospective, call.result = .ok prospective → prospective.header = header ∧
    ∃ commit, call.commit = some commit ∧ prospective.commits = committed ++ [commit] ∧
      FileEffect.written writes = campaignCommitBytes commit ++ [LF]
  raised : ∀ error, call.result = .error error → disk.flushWritten = true →
    ∀ commit ∈ call.commit, FileEffect.written writes ≠ campaignCommitBytes commit ++ [LF]

lemma CampaignShape.call (h : CampaignShape header committed torn file) (factory : CampaignFactory)
    (disk : Disk) :
    ∃ writes, CampaignCallSpec header committed h.record factory file disk
      (transactCampaignFile disk header factory file) writes := by
  obtain ⟨head, hdecode⟩ := h.decode
  unfold transactCampaignFile
  rw [hdecode]
  dsimp only
  split
  · exact ⟨[], ⟨by simp, by simp [FileEffect.AppendOnly], fun _ => rfl, by simp⟩, by simp, by simp,
      by simp, by simp, by simp⟩
  split
  · exact ⟨[], ⟨by simp, by simp [FileEffect.AppendOnly], fun _ => rfl, by simp⟩, by simp, by simp,
      by simp, by simp, by simp⟩
  · rename_i prospective commit hdecide
    obtain ⟨record, hrecord, hfactory, hheader, hcommits, htransact, state, hstate⟩ :=
      decideCampaign_eq_ok hdecide
    obtain rfl : record = h.record := Except.ok.inj
      (hrecord.symm.trans (campaignRecord_eq_ok.mpr ⟨rfl, rfl⟩))
    obtain ⟨honly, hprefix, hall⟩ := writeAllFd_spec disk.write (campaignCommitBytes commit ++ [LF])
    refine ⟨_, ⟨rfl, honly, by simp, by simpa using hprefix⟩, ?_, ?_, ?_, ?_, ?_⟩
    · rintro _ ⟨⟩
      have hevents : prospective.events = (committed ++ [commit]).flatMap CampaignCommit.events :=
        congrArg (List.flatMap CampaignCommit.events) hcommits
      exact ⟨hfactory, hevents ▸ htransact⟩
    · rintro _ ⟨⟩
      obtain ⟨scan, hscan⟩ := prospective.chained
      rw [hheader, hcommits] at hscan
      exact ⟨scan, hscan⟩
    · rintro _ ⟨⟩
      rw [replayCampaignRecord, CampaignRecord.events, hheader, hcommits] at hstate
      exact ⟨state, hstate⟩
    · intro prospective' hresult
      split_ifs at hresult with hwritten
      cases hresult
      exact ⟨hheader, commit, rfl, hcommits, hall.mp (by simpa using hwritten)⟩
    · rintro error hresult hflush _ ⟨⟩
      split_ifs at hresult with hwritten
      rw [hwritten] at hall
      simpa using hall

variable {disk : Disk} {writes : List FileEffect} {call : CampaignCall}

/-- One step: a call keeps the shape of the file, wherever it stops. -/
lemma CampaignShape.step (h : CampaignShape header committed torn file)
    (hc : CampaignCallSpec header committed h.record factory file disk call writes)
    (henc : ∀ c ∈ call.commit, CampaignEncodes c) {file' bytes : Bytes}
    (hi : FileEffect.Interrupted call.effects file file' bytes) :
    ∃ torn', CampaignShape header
      (committed ++ if LF ∈ bytes then call.commit.toList else []) torn' file' := by
  obtain ⟨torn', hlog⟩ := h.log.step hc.log (fun c hc => (henc c hc).clean.no_lf) hi
  refine ⟨torn', hlog, ?_, ?_, ?_⟩
  · rw [List.forall_mem_append]
    refine ⟨h.encodes, ?_⟩
    intro c hmem
    split_ifs at hmem
    · exact henc c (by simpa using hmem)
    · cases hmem
  all_goals
    cases hcommit : call.commit with
    | none =>
      simp only [Option.toList_none, ite_self, List.append_nil]
      first | exact h.chained | exact h.replays
    | some commit =>
      split_ifs
      · first | exact hc.chained commit hcommit | exact hc.replays commit hcommit
      · rw [List.append_nil]
        first | exact h.chained | exact h.replays

/-- A call that returns has completed its commit, and one that raises has not, unless the flush
after the commit raised. -/
lemma CampaignCallSpec.completed {record : CampaignRecord}
    (hc : CampaignCallSpec header committed record factory file disk call writes)
    (henc : ∀ c ∈ call.commit, CampaignEncodes c) :
    (∀ prospective, call.result = .ok prospective → LF ∈ FileEffect.written call.effects) ∧
    (∀ error, call.result = .error error → disk.flushWritten = true →
      LF ∉ FileEffect.written call.effects) := by
  rw [hc.log.written_effects]
  refine ⟨?_, ?_⟩
  · intro prospective hresult
    obtain ⟨-, commit, -, -, hwritten⟩ := hc.returned prospective hresult
    rw [hwritten]
    simp
  · intro error hresult hflush
    cases hcommit : call.commit with
    | none =>
      rw [hc.log.silent hcommit]
      exact List.not_mem_nil
    | some commit =>
      have hlf := (henc commit hcommit).clean.no_lf
      rcases prefix_of_line hlf (hc.log.written_prefix commit hcommit) with hall | ⟨-, hopen⟩
      · exact absurd hall (hc.raised error hresult hflush commit hcommit)
      · exact hopen

/-- Every history leaves a file of the shape of its commits. -/
theorem CampaignHistory.shape {attempted : List CampaignCommit}
    (history : CampaignHistory header attempted committed file)
    (henc : ∀ c ∈ attempted, CampaignEncodes c) :
    ∃ torn, CampaignShape header committed torn file := by
  induction history with
  | created =>
    exact ⟨[], ⟨rfl, List.not_mem_nil⟩, by simp, ⟨_, rfl⟩, ⟨_, rfl⟩⟩
  | @returned attempted committed file prior factory disk record result_eq ih =>
    rw [List.forall_mem_append] at henc
    obtain ⟨torn, h⟩ := ih henc.1
    obtain ⟨writes, hc⟩ := h.call factory disk
    have henc' : ∀ c ∈ (transactCampaignFile disk header factory file).commit,
        CampaignEncodes c := fun c hc => henc.2 c (by simpa using hc)
    obtain ⟨torn', hstep⟩ := h.step hc henc' (FileEffect.Interrupted.complete _ _)
    rw [if_pos ((hc.completed henc').1 record result_eq)] at hstep
    exact ⟨torn', hstep⟩
  | raised prior factory disk error result_eq ih =>
    rw [List.forall_mem_append] at henc
    obtain ⟨torn, h⟩ := ih henc.1
    obtain ⟨writes, hc⟩ := h.call factory disk
    exact h.step hc (fun c hc => henc.2 c (by simpa using hc)) (FileEffect.Interrupted.complete _ _)
  | crashed prior factory disk interrupted ih =>
    rw [List.forall_mem_append] at henc
    obtain ⟨torn, h⟩ := ih henc.1
    obtain ⟨writes, hc⟩ := h.call factory disk
    exact h.step hc (fun c hc => henc.2 c (by simpa using hc)) interrupted

/-- The record read is `record` with the commit that the call builds on it. -/
def AppendsCommit (header : CampaignHeader) (factory : CampaignFactory) (record : CampaignRecord)
    (commit : CampaignCommit) (prospective : CampaignRecord) : Prop :=
  factory record = .ok commit.events ∧ prospective.header = header ∧
    prospective.commits = record.commits ++ [commit] ∧
    transactCampaign header record.events commit.events = .ok prospective.events

/-- A finished call whose line feed was written has added its commit to what is read. -/
lemma CampaignShape.appends (h : CampaignShape header committed torn file)
    (hc : CampaignCallSpec header committed h.record factory file disk call writes)
    (henc : ∀ c ∈ call.commit, CampaignEncodes c) (hlf : LF ∈ FileEffect.written call.effects) :
    ∃ commit prospective, call.commit = some commit ∧
      readCampaignRecord header (FileEffect.applyAll file call.effects) = .ok prospective ∧
      AppendsCommit header factory h.record commit prospective := by
  obtain ⟨torn', hstep⟩ := h.step hc henc (FileEffect.Interrupted.complete _ _)
  rw [if_pos hlf] at hstep
  cases hcommit : call.commit with
  | none =>
    rw [hc.log.written_effects, hc.log.silent hcommit] at hlf
    cases hlf
  | some commit =>
    rw [hcommit, Option.toList_some] at hstep
    obtain ⟨hfactory, htransact⟩ := hc.built commit hcommit
    exact ⟨commit, hstep.record, rfl, hstep.read, hfactory, rfl, rfl, htransact⟩

/-- Linearizability and crash atomicity. After any history of calls the record is read, holds
exactly the commits of the calls that took effect, in the order of the lock, and replays. A further
call builds on that record. One that returns has added its commit; one that raises has changed
nothing, unless the flush after its commit raised. -/
theorem campaign_journal_linearizable (header : CampaignHeader)
    (attempted committed : List CampaignCommit) (file : Bytes)
    (history : CampaignHistory header attempted committed file)
    (encodes : ∀ c ∈ attempted, CampaignEncodes c) :
    ∃ record, readCampaignRecord header file = .ok record ∧ record.header = header ∧
      record.commits = committed ∧ (∃ state, replayCampaignRecord record = .ok state) ∧
      ∀ (factory : CampaignFactory) (disk : Disk),
        (∀ c ∈ (transactCampaignFile disk header factory file).commit, CampaignEncodes c) →
        (∀ error, (transactCampaignFile disk header factory file).result = .error error →
          readCampaignRecord header (FileEffect.applyAll file
            (transactCampaignFile disk header factory file).effects) = .ok record ∨
          disk.flushWritten = false ∧ ∃ commit prospective,
            (transactCampaignFile disk header factory file).commit = some commit ∧
            readCampaignRecord header (FileEffect.applyAll file
              (transactCampaignFile disk header factory file).effects) = .ok prospective ∧
            AppendsCommit header factory record commit prospective) ∧
        ∀ prospective, (transactCampaignFile disk header factory file).result =
            .ok prospective →
          readCampaignRecord header (FileEffect.applyAll file
            (transactCampaignFile disk header factory file).effects) = .ok prospective ∧
          ∃ commit, (transactCampaignFile disk header factory file).commit = some commit ∧
            AppendsCommit header factory record commit prospective := by
  obtain ⟨torn, h⟩ := history.shape encodes
  refine ⟨h.record, h.read, rfl, rfl, h.replays, ?_⟩
  intro factory disk henc
  obtain ⟨writes, hc⟩ := h.call factory disk
  refine ⟨?_, ?_⟩
  · intro error herror
    by_cases hlf : LF ∈ FileEffect.written (transactCampaignFile disk header factory file).effects
    · refine Or.inr ⟨?_, h.appends hc henc hlf⟩
      by_contra hflush
      exact (hc.completed henc).2 error herror (by simpa using hflush) hlf
    · obtain ⟨torn', hstep⟩ := h.step hc henc (FileEffect.Interrupted.complete _ _)
      rw [if_neg hlf, List.append_nil] at hstep
      exact Or.inl hstep.read
  · intro prospective hresult
    obtain ⟨commit, read, hcommit, hread, happends⟩ :=
      h.appends hc henc ((hc.completed henc).1 prospective hresult)
    obtain ⟨hheader, commit', hcommit', hcommits, -⟩ := hc.returned prospective hresult
    obtain rfl : commit = commit' := Option.some.inj (hcommit.symm.trans hcommit')
    obtain rfl : read = prospective := by
      obtain ⟨-, hheader', hcommits', -⟩ := happends
      cases read
      cases prospective
      cases hheader.trans hheader'.symm
      cases hcommits.trans hcommits'.symm
      rfl
    exact ⟨hread, commit, hcommit, happends⟩

end Shape

end Journal

/-! ### A torn commit -/

section TornCommit

local instance tornCampaignRun : Canonical := plainCanonical
local instance tornCampaignBudget : CampaignCanonical := plainCampaignCanonical

local instance tornCampaignDigests : CampaignDigests where
  headerDigest _ := "anchor"
  campaignCommitDigest previous events := previous ++ "/" ++ toString events.length

/-- Work is reserved and dispatched in one commit. -/
def workCommit : CampaignCommit where
  previousRecordDigest := "anchor"
  events := workJournal
  recordDigest := "anchor/2"
  events_ne_nil := by decide
  digest_eq := by decide

/-- The settlement of that work. -/
def overrunCommit : CampaignCommit where
  previousRecordDigest := "anchor/2"
  events := overrunJournal
  recordDigest := "anchor/2/1"
  events_ne_nil := by decide
  digest_eq := by decide

def plainCampaignCommitBytes (commit : CampaignCommit) : Bytes :=
  asciiBytes ("\x7b\"previous_record_digest\":\"" ++ commit.previousRecordDigest ++
    "\",\"record_digest\":\"" ++ commit.recordDigest ++ "\"\x7d")

local instance tornCampaignCodec : CampaignCodec where
  campaignCommitBytes := plainCampaignCommitBytes
  validateCampaignCommit line :=
    [workCommit, overrunCommit].find? fun c => plainCampaignCommitBytes c = line

lemma campaignCommits_clean : ∀ c ∈ [workCommit, overrunCommit],
    LF ∉ campaignCommitBytes c ∧ CR ∉ campaignCommitBytes c ∧ campaignCommitBytes c ≠ [] := by
  decide +kernel

lemma workCommit_encodes : CampaignEncodes workCommit := by
  obtain ⟨hlf, hcr, hne⟩ := campaignCommits_clean workCommit (by simp)
  exact ⟨⟨hlf, hcr⟩, hne, by rfl⟩

lemma overrunCommit_encodes : CampaignEncodes overrunCommit := by
  obtain ⟨hlf, hcr, hne⟩ := campaignCommits_clean overrunCommit (by simp)
  exact ⟨⟨hlf, hcr⟩, hne, by rfl⟩

def workCall : CampaignCall :=
  transactCampaignFile soundDisk oneTrialHeader (fun _ => .ok workJournal) []

def overrunCall : CampaignCall :=
  transactCampaignFile soundDisk oneTrialHeader (fun _ => .ok overrunJournal)
    (recordLines campaignCommitBytes [workCommit])

/-- The first commit, and five bytes of the second. -/
def tornCampaignFile : Bytes :=
  recordLines campaignCommitBytes [workCommit] ++
    (campaignCommitBytes overrunCommit ++ [LF]).take 5

/-- What the calls of the torn campaign return and write. -/
lemma tornCampaignCalls :
    (workCall.result.isOk = true ∧
      FileEffect.applyAll [] workCall.effects = recordLines campaignCommitBytes [workCommit]) ∧
    (overrunCall.effects = [.append (campaignCommitBytes overrunCommit ++ [LF])] ∧
      LF ∉ (campaignCommitBytes overrunCommit ++ [LF]).take 5) ∧
    (transactCampaignFile soundDisk oneTrialHeader (fun _ => .ok overrunJournal)
      tornCampaignFile).result.isOk = true := by
  decide +kernel

lemma workCommit_history : CampaignHistory oneTrialHeader [workCommit] [workCommit]
    (recordLines campaignCommitBytes [workCommit]) := by
  obtain ⟨⟨hok, hfile⟩, -⟩ := tornCampaignCalls
  obtain ⟨record, hrecord⟩ := Except.exists_of_isOk hok
  have hwork : CampaignHistory oneTrialHeader ([] ++ workCall.commit.toList)
      ([] ++ workCall.commit.toList) (FileEffect.applyAll [] workCall.effects) :=
    CampaignHistory.created.returned _ _ record hrecord
  have hcommit : workCall.commit = some workCommit := by rfl
  rwa [hcommit, hfile] at hwork

/-- The work is dispatched, and the runner dies while it settles it. -/
lemma tornCampaignFile_history :
    CampaignHistory oneTrialHeader [workCommit, overrunCommit] [workCommit] tornCampaignFile := by
  obtain ⟨-, ⟨heffects', hopen⟩, -⟩ := tornCampaignCalls
  have hcommit' : overrunCall.commit = some overrunCommit := by rfl
  have hcut : FileEffect.Interrupted overrunCall.effects
      (recordLines campaignCommitBytes [workCommit]) tornCampaignFile
      ((campaignCommitBytes overrunCommit ++ [LF]).take 5) := by
    rw [heffects']
    exact .cut _ _ _ 5
  have hcrash := workCommit_history.crashed _ _ hcut
  rw [if_neg hopen] at hcrash
  change CampaignHistory oneTrialHeader ([workCommit] ++ overrunCall.commit.toList) _ _ at hcrash
  rw [hcommit'] at hcrash
  exact hcrash

/-- The torn settlement is not read, and settling again adds it. -/
theorem tornCampaignFile_linearizable :
    CampaignHistory oneTrialHeader [workCommit, overrunCommit] [workCommit] tornCampaignFile ∧
      ∃ record, readCampaignRecord oneTrialHeader tornCampaignFile = .ok record ∧
        record.commits = [workCommit] ∧
        ∃ prospective, readCampaignRecord oneTrialHeader (FileEffect.applyAll tornCampaignFile
            (transactCampaignFile soundDisk oneTrialHeader (fun _ => .ok overrunJournal)
              tornCampaignFile).effects) = .ok prospective ∧
          prospective.commits = [workCommit, overrunCommit] := by
  have hencodes : ∀ c ∈ [workCommit, overrunCommit], CampaignEncodes c := by
    intro c hc
    rcases List.mem_pair.mp hc with rfl | rfl
    · exact workCommit_encodes
    · exact overrunCommit_encodes
  obtain ⟨record, hread, -, hcommits, -, hnext⟩ :=
    campaign_journal_linearizable _ _ _ _ tornCampaignFile_history hencodes
  have hcommit : (transactCampaignFile soundDisk oneTrialHeader (fun _ => .ok overrunJournal)
      tornCampaignFile).commit = some overrunCommit := by rfl
  obtain ⟨-, -, hok⟩ := tornCampaignCalls
  obtain ⟨prospective, hprospective⟩ := Except.exists_of_isOk hok
  obtain ⟨-, hreturned⟩ := hnext (fun _ => .ok overrunJournal) soundDisk (by
    rw [hcommit]
    rintro c ⟨⟩
    exact overrunCommit_encodes)
  obtain ⟨hagain, commit, hcommit', -, -, hall, -⟩ := hreturned prospective hprospective
  rw [hcommit] at hcommit'
  cases hcommit'
  rw [hcommits] at hall
  exact ⟨tornCampaignFile_history, record, hread, hcommits, prospective, hagain, hall⟩

def unflushedWork : CampaignCall :=
  transactCampaignFile unflushedDisk oneTrialHeader (fun _ => .ok workJournal) []

lemma unflushedWork_eq :
    unflushedWork.result.isOk = false ∧
      FileEffect.applyAll [] unflushedWork.effects =
        recordLines campaignCommitBytes [workCommit] := by
  decide +kernel

/-- A transaction that raises may have added its commit to the record. -/
theorem unflushed_work_committed :
    CampaignHistory oneTrialHeader [] [] [] ∧
    (∃ error, unflushedWork.result = .error error) ∧
    (∃ record, readCampaignRecord oneTrialHeader [] = .ok record ∧ record.commits = []) ∧
    ∃ record, readCampaignRecord oneTrialHeader (FileEffect.applyAll [] unflushedWork.effects) =
      .ok record ∧ record.commits = [workCommit] := by
  obtain ⟨hraised, hfile⟩ := unflushedWork_eq
  have hcreated : CampaignHistory oneTrialHeader [] [] [] := .created
  obtain ⟨_, hbefore⟩ := hcreated.shape (by simp)
  obtain ⟨_, hafter⟩ := workCommit_history.shape (by simpa using workCommit_encodes)
  rw [hfile]
  refine ⟨hcreated, ?_, ⟨_, hbefore.read, rfl⟩, _, hafter.read, rfl⟩
  cases hresult : unflushedWork.result with
  | error error => exact ⟨error, rfl⟩
  | ok record =>
    rw [hresult] at hraised
    cases hraised

end TornCommit

end EdaGym
