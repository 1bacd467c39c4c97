import EdaGym.Run.JournalFile
import EdaGym.Run.Terminal

/-!
# Crash atomicity of the run journal

Whatever calls were made and wherever they were cut short, the file is the lines of the completed
commits followed by a torn record without a line feed. Everything else follows from this shape.
-/

namespace EdaGym

section Atomicity

variable [Canonical] [JournalDigests] [CommitCodec]

/-! ### Histories -/

/-- A client's call on the journal. -/
inductive JournalOperation
  | append (requested : List RunEvent)
  | transact (factory : RunState → Except JournalError (List RunEvent))

def JournalOperation.call (operation : JournalOperation) (disk : Disk)
    (header : RunHeader) (task : TaskSpec) (file : Bytes) : JournalCall :=
  match operation with
  | .append requested => appendEvents header task disk requested file
  | .transact factory => transactEvents header task disk factory file

/-- The events that a call on the committed events is asked to commit. -/
def JournalOperation.Requests (operation : JournalOperation) (header : RunHeader)
    (task : TaskSpec) (committed events : List RunEvent) : Prop :=
  match operation with
  | .append requested => events = requested
  | .transact factory =>
    ∃ state, replay header task committed = .ok state ∧ factory state = .ok events

/-- The record of a call, if all its bytes and its line feed are among those written. -/
def JournalCall.completed (call : JournalCall) (bytes : Bytes) : List RunCommit :=
  (call.record.filter fun record => decide (bytes = commitBytes record ++ [LF])).toList

/-- `History header task attempted committed file`: some calls, each returned, raised or cut short,
set out to append the records `attempted` and left `file`; of these records, `committed` were
completed. -/
inductive History (header : RunHeader) (task : TaskSpec) :
    List RunCommit → List RunCommit → Bytes → Prop
  | created : History header task [] [] []
  | returned {attempted committed : List RunCommit} {file : Bytes}
      (prior : History header task attempted committed file)
      (operation : JournalOperation) (disk : Disk) (state : RunState)
      (result_eq : (operation.call disk header task file).result = .ok state) :
      History header task
        (attempted ++ (operation.call disk header task file).record.toList)
        (committed ++ (operation.call disk header task file).record.toList)
        (FileEffect.applyAll file (operation.call disk header task file).effects)
  | raised {attempted committed : List RunCommit} {file : Bytes}
      (prior : History header task attempted committed file)
      (operation : JournalOperation) (disk : Disk) (error : JournalError)
      (result_eq : (operation.call disk header task file).result = .error error) :
      History header task
        (attempted ++ (operation.call disk header task file).record.toList)
        (committed ++ (operation.call disk header task file).completed
          (FileEffect.written (operation.call disk header task file).effects))
        (FileEffect.applyAll file (operation.call disk header task file).effects)
  | crashed {attempted committed : List RunCommit} {file file' bytes : Bytes}
      (prior : History header task attempted committed file)
      (operation : JournalOperation) (disk : Disk)
      (interrupted : FileEffect.Interrupted (operation.call disk header task file).effects
        file file' bytes) :
      History header task
        (attempted ++ (operation.call disk header task file).record.toList)
        (committed ++ (operation.call disk header task file).completed bytes) file'

/-! ### The file of a list of commits -/

/-- The encoding of this commit is one line that is read back as the commit. -/
structure Encodes (record : RunCommit) : Prop where
  clean : Clean (commitBytes record)
  ne_nil : commitBytes record ≠ []
  valid : validateCommit (commitBytes record) = some record

instance (record : RunCommit) : Decidable (Encodes record) :=
  decidable_of_iff ((LF ∉ commitBytes record ∧ CR ∉ commitBytes record) ∧
      commitBytes record ≠ [] ∧ validateCommit (commitBytes record) = some record)
    ⟨fun h => ⟨⟨h.1.1, h.1.2⟩, h.2.1, h.2.2⟩, fun h => ⟨⟨h.clean.1, h.clean.2⟩, h.ne_nil, h.valid⟩⟩

/-- The file that holds exactly these commits. -/
def commitLines (commits : List RunCommit) : Bytes := terminated (commits.map commitBytes)

/-- Each commit names its predecessor's digest, the first one `digest`. -/
def Chained (digest : Digest) : List RunCommit → Prop
  | [] => True
  | record :: records => record.previousRecordDigest = digest ∧ Chained record.recordDigest records

def headDigest (digest : Digest) (commits : List RunCommit) : Digest :=
  (commits.getLast?.map RunCommit.recordDigest).getD digest

/-- What reading the file of these commits returns. -/
def durablePrefix (header : RunHeader) (commits : List RunCommit) : DurablePrefix where
  events := commits.flatMap RunCommit.events
  durableLength := (commitLines commits).length
  headDigest := headDigest (journalAnchor header) commits
  records := commits

section

omit [CommitCodec]

@[simp] lemma headDigest_concat (digest : Digest) (commits : List RunCommit)
    (record : RunCommit) : headDigest digest (commits ++ [record]) = record.recordDigest := by
  simp [headDigest]

lemma headDigest_cons (digest : Digest) (record : RunCommit) (records : List RunCommit) :
    headDigest digest (record :: records) = headDigest record.recordDigest records := by
  cases records using List.reverseRecOn with
  | nil => rfl
  | append_singleton records last =>
    rw [← List.cons_append, headDigest_concat, headDigest_concat]

lemma chained_concat {digest : Digest} {commits : List RunCommit} {record : RunCommit} :
    Chained digest (commits ++ [record]) ↔
      Chained digest commits ∧ record.previousRecordDigest = headDigest digest commits := by
  induction commits generalizing digest with
  | nil => simp [Chained, headDigest]
  | cons c commits ih =>
    rw [List.cons_append, Chained, ih, Chained, headDigest_cons, and_assoc]

end

lemma commitLines_concat (commits : List RunCommit) (record : RunCommit) :
    commitLines (commits ++ [record]) = commitLines commits ++ (commitBytes record ++ [LF]) := by
  simp [commitLines, terminated_concat]

/-! ### Reading -/

lemma decodeRecord_encodes {acc : DurablePrefix} {record : RunCommit} (h : Encodes record)
    (hlink : record.previousRecordDigest = acc.headDigest) :
    decodeRecord acc (commitBytes record) = .ok { acc with
      events := acc.events ++ record.events
      records := acc.records ++ [record]
      headDigest := record.recordDigest } := by
  simp only [decodeRecord, bind_eq_ok, raiseIf_eq_ok, orRaise_eq_ok, exists_const, pure_eq_ok,
    not_not]
  exact ⟨h.ne_nil, record, h.valid, rfl, hlink, rfl⟩

/-- Reading the lines of a chain of commits takes over all of them. -/
lemma decode_lines {commits : List RunCommit} (henc : ∀ c ∈ commits, Encodes c)
    {acc : DurablePrefix} (hchain : Chained acc.headDigest commits) :
    foldSteps decodeRecord acc (commits.map commitBytes) = .ok { acc with
      events := acc.events ++ commits.flatMap RunCommit.events
      records := acc.records ++ commits
      headDigest := headDigest acc.headDigest commits } := by
  induction commits generalizing acc with
  | nil => simp [headDigest]
  | cons record commits ih =>
    rw [List.forall_mem_cons] at henc
    rw [List.map_cons, foldSteps_cons_eq_ok]
    refine ⟨_, decodeRecord_encodes henc.1 hchain.1, ?_⟩
    rw [ih henc.2 hchain.2]
    simp [headDigest_cons]

/-- The shape that the file keeps: the lines of the completed commits and a torn tail. -/
structure JournalShape (header : RunHeader) (committed : List RunCommit) (torn file : Bytes) :
    Prop where
  file_eq : file = commitLines committed ++ torn
  torn_open : LF ∉ torn
  chained : Chained (journalAnchor header) committed
  encodes : ∀ c ∈ committed, Encodes c

section Shape

variable {header : RunHeader} {task : TaskSpec} {committed : List RunCommit} {torn file : Bytes}

lemma JournalShape.decode (h : JournalShape header committed torn file) :
    decodeDurablePrefix header file = .ok (durablePrefix header committed) := by
  have hlines : splitlines (commitLines committed) = committed.map commitBytes := by
    refine splitlines_terminated fun line hline => ?_
    obtain ⟨record, hrecord, rfl⟩ := List.mem_map.mp hline
    exact (h.encodes record hrecord).clean
  have hlength : durableLength file = (commitLines committed).length := by
    rw [h.file_eq]
    exact durableLength_torn _ h.torn_open
  rw [decodeDurablePrefix]
  by_cases hfile : file = []
  · -- an empty file holds no commit
    have hnil : commitLines committed = [] := (List.append_eq_nil_iff.mp (h.file_eq ▸ hfile)).1
    have : committed = [] := by
      cases committed with
      | nil => rfl
      | cons c cs => simp [commitLines, terminated_cons] at hnil
    subst this
    rw [if_pos hfile]
    rfl
  · rw [if_neg hfile]
    simp only [hlength]
    rw [h.file_eq, List.take_left, hlines, decode_lines h.encodes h.chained]
    simp [durablePrefix]

variable {record : RunCommit}

/-- Appending a completed record to the lines of the commits it continues. -/
lemma JournalShape.concat (h : JournalShape header committed torn file)
    (henc : Encodes record)
    (hlink : record.previousRecordDigest = headDigest (journalAnchor header) committed) :
    JournalShape header (committed ++ [record]) []
      (commitLines committed ++ (commitBytes record ++ [LF])) where
  file_eq := by rw [commitLines_concat, List.append_nil]
  torn_open := List.not_mem_nil
  chained := chained_concat.mpr ⟨h.chained, hlink⟩
  encodes := by
    intro c hc
    rcases List.mem_append.mp hc with hc | hc
    · exact h.encodes c hc
    · rw [List.mem_singleton.mp hc]
      exact henc

/-- The same commits before another torn tail. -/
lemma JournalShape.retear (h : JournalShape header committed torn file) {torn' : Bytes}
    (htorn : LF ∉ torn') :
    JournalShape header committed torn' (commitLines committed ++ torn') :=
  ⟨rfl, htorn, h.chained, h.encodes⟩

/-! ### Writing -/

omit [CommitCodec] in
lemma fromEvents_eq_ok {digest : Digest} {events : List RunEvent}
    (h : RunCommit.fromEvents digest events = .ok record) :
    record.previousRecordDigest = digest ∧ record.events = events := by
  unfold RunCommit.fromEvents at h
  split at h
  · cases h
  · cases h
    exact ⟨rfl, rfl⟩

/-- The changes of a call on a file of commits: the torn tail goes first, then a record is written
that continues the chain. -/
structure CallSpec (header : RunHeader) (task : TaskSpec) (operation : JournalOperation)
    (committed : List RunCommit) (file : Bytes) (disk : Disk) (call : JournalCall)
    (writes : List FileEffect) : Prop where
  effects_eq : call.effects = truncateTorn file (durablePrefix header committed) ++ writes
  appendOnly : FileEffect.AppendOnly writes
  silent : call.record = none → writes = []
  linked : ∀ record ∈ call.record,
    record.previousRecordDigest = headDigest (journalAnchor header) committed
  requested : ∀ record ∈ call.record,
    operation.Requests header task (committed.flatMap RunCommit.events) record.events
  written_prefix : ∀ record ∈ call.record,
    FileEffect.written writes <+: commitBytes record ++ [LF]
  returned_iff : ∀ record ∈ call.record, (∃ state, call.result = .ok state) ↔
    FileEffect.written writes = commitBytes record ++ [LF] ∧ disk.flushWritten = true

variable {state : RunState}

lemma decideAppend_record {requested : List RunEvent} {durable : DurablePrefix}
    (h : decideAppend header task requested durable = .ok (state, some record)) :
    record.previousRecordDigest = durable.headDigest ∧ record.events = requested := by
  simp only [decideAppend, bind_eq_ok] at h
  obtain ⟨⟨_, new⟩, -, h⟩ := h
  cases new with
  | false => simp [pure_eq_ok] at h
  | true =>
    simp only [if_true, bind_eq_ok, pure_eq_ok, Prod.mk.injEq, Option.some.injEq] at h
    obtain ⟨c, hc, -, rfl⟩ := h
    exact fromEvents_eq_ok hc

omit [CommitCodec] in
lemma decideTransact_record {factory : RunState → Except JournalError (List RunEvent)}
    {durable : DurablePrefix}
    (h : decideTransact header task factory durable = .ok (state, some record)) :
    record.previousRecordDigest = durable.headDigest ∧
      ∃ before, replay header task durable.events = .ok before ∧
        factory before = .ok record.events := by
  simp only [decideTransact, bind_eq_ok, pure_eq_ok, Prod.mk.injEq, Option.some.injEq] at h
  obtain ⟨⟨_, requested⟩, hadmit, c, hc, -, rfl⟩ := h
  simp only [admitTransact, bind_eq_ok, raiseIf_eq_ok, exists_const, pure_eq_ok,
    Prod.mk.injEq] at hadmit
  obtain ⟨before, hbefore, -, _, hrequested, -, -, -, -, _, -, -, rfl⟩ := hadmit
  obtain ⟨hlink, hevents⟩ := fromEvents_eq_ok hc
  exact ⟨hlink, before, hbefore, hevents ▸ hrequested⟩

variable {operation : JournalOperation}

lemma JournalShape.lockedCall (h : JournalShape header committed torn file)
    (disk : Disk)
    {decision : DurablePrefix → Except JournalError (RunState × Option RunCommit)}
    (hdecision : ∀ state record, decision (durablePrefix header committed) =
        .ok (state, some record) →
      record.previousRecordDigest = headDigest (journalAnchor header) committed ∧
      operation.Requests header task (committed.flatMap RunCommit.events) record.events) :
    ∃ writes, CallSpec header task operation committed file disk
      (lockedCall disk header file decision) writes := by
  unfold EdaGym.lockedCall
  rw [h.decode]
  dsimp only
  split
  · refine ⟨[], by simp, ?_, fun _ => rfl, ?_, ?_, ?_, ?_⟩ <;> simp [FileEffect.AppendOnly]
  split
  · refine ⟨[], by simp, ?_, fun _ => rfl, ?_, ?_, ?_, ?_⟩ <;> simp [FileEffect.AppendOnly]
  · refine ⟨[], by simp, ?_, fun _ => rfl, ?_, ?_, ?_, ?_⟩ <;> simp [FileEffect.AppendOnly]
  · rename_i state record heq
    obtain ⟨hlink, hrequests⟩ := hdecision state record heq
    obtain ⟨honly, hprefix, hall⟩ := writeAllFd_spec disk.write (commitBytes record ++ [LF])
    refine ⟨_, rfl, honly, by simp, ?_, ?_, ?_, ?_⟩
    · simpa using hlink
    · simpa using hrequests
    · simpa using hprefix
    · rintro _ ⟨⟩
      rw [← hall]
      cases (writeAllFd disk.write (commitBytes record ++ [LF])).2 <;>
        cases disk.flushWritten <;> simp

/-- A call either raises before it opens the file, or follows the specification. -/
lemma JournalShape.call (h : JournalShape header committed torn file)
    (operation : JournalOperation) (disk : Disk) :
    (∃ e, operation.call disk header task file = { effects := [], result := .error e }) ∨
    ∃ writes, CallSpec header task operation committed file disk
      (operation.call disk header task file) writes := by
  cases operation with
  | append requested =>
    by_cases hnil : requested = []
    · exact Or.inl ⟨_, by simp only [JournalOperation.call, appendEvents, if_pos hnil]; rfl⟩
    · refine Or.inr ?_
      simp only [JournalOperation.call, appendEvents, if_neg hnil]
      exact h.lockedCall disk fun state record hd => decideAppend_record hd
  | transact factory =>
    exact Or.inr (h.lockedCall disk fun state record hd => decideTransact_record hd)

variable {disk : Disk} {call : JournalCall} {writes : List FileEffect}

lemma CallSpec.applyAll (h : JournalShape header committed torn file)
    (hc : CallSpec header task operation committed file disk call writes) :
    FileEffect.applyAll file call.effects =
      commitLines committed ++ FileEffect.written writes := by
  have htruncate : FileEffect.applyAll file (truncateTorn file (durablePrefix header committed)) =
      commitLines committed := applyAll_truncateTail h.file_eq
  rw [hc.effects_eq, FileEffect.applyAll, List.foldl_append]
  change FileEffect.applyAll (FileEffect.applyAll file _) writes = _
  rw [htruncate, hc.appendOnly.applyAll]

/-! ### Whole histories -/

lemma JournalCall.completed_of_some
    (h : call.record = some record) (bytes : Bytes) :
    call.completed bytes = if bytes = commitBytes record ++ [LF] then [record] else [] := by
  unfold JournalCall.completed
  split <;> simp_all

lemma JournalCall.completed_of_none (h : call.record = none)
    (bytes : Bytes) : call.completed bytes = [] := by
  simp [JournalCall.completed, h]

/-- A record of which only some bytes are written does not count, and leaves no line feed. -/
lemma JournalShape.write (h : JournalShape header committed torn file)
    (henc : Encodes record)
    (hlink : record.previousRecordDigest = headDigest (journalAnchor header) committed)
    {bytes : Bytes} (hp : bytes <+: commitBytes record ++ [LF]) :
    ∃ torn', JournalShape header
      (committed ++ if bytes = commitBytes record ++ [LF] then [record] else []) torn'
      (commitLines committed ++ bytes) := by
  rcases prefix_of_line henc.clean.no_lf hp with rfl | ⟨hne, hlf⟩
  · rw [if_pos rfl]
    exact ⟨[], h.concat henc hlink⟩
  · rw [if_neg hne, List.append_nil]
    exact ⟨bytes, h.retear hlf⟩

/-- One step: a call keeps the shape of the file, wherever it stops. -/
lemma JournalShape.step (h : JournalShape header committed torn file)
    (operation : JournalOperation) (disk : Disk) {file' bytes : Bytes}
    (henc : ∀ c ∈ (operation.call disk header task file).record, Encodes c)
    (hi : FileEffect.Interrupted (operation.call disk header task file).effects
      file file' bytes) :
    ∃ torn', JournalShape header
      (committed ++ (operation.call disk header task file).completed bytes) torn' file' := by
  rcases h.call operation disk with ⟨e, hcall⟩ | ⟨writes, hc⟩
  · rw [hcall] at hi ⊢
    cases hi
    exact ⟨torn, by simpa [JournalCall.completed] using h⟩
  rw [hc.effects_eq] at hi
  rcases hrecord : (operation.call disk header task file).record with _ | record
  · rw [JournalCall.completed_of_none hrecord, List.append_nil]
    rw [hc.silent hrecord] at hi
    rcases interrupted_truncateTail h.file_eq hi with ⟨rfl, -⟩ | hi
    · exact ⟨torn, h⟩
    · cases hi
      have hclean := h.retear List.not_mem_nil
      rw [List.append_nil] at hclean
      exact ⟨[], hclean⟩
  · rw [JournalCall.completed_of_some hrecord]
    rcases interrupted_truncateTail h.file_eq hi with ⟨rfl, rfl⟩ | hi
    · rw [if_neg (by simp), List.append_nil]
      exact ⟨torn, h⟩
    · obtain ⟨rfl, hp⟩ := hc.appendOnly.interrupted hi
      exact h.write (henc record hrecord) (hc.linked record hrecord)
        (hp.trans (hc.written_prefix record hrecord))

/-- The bytes that a finished call has written. -/
lemma CallSpec.written_effects
    (hc : CallSpec header task operation committed file disk call writes) :
    FileEffect.written call.effects = FileEffect.written writes := by
  rw [hc.effects_eq]
  exact written_truncateTail _ _ _

/-- A call that returns has completed its record, and one that raises has not, unless the flush
after the record raised. -/
lemma JournalShape.completed_written (h : JournalShape header committed torn file)
    (operation : JournalOperation) (disk : Disk) :
    (∀ state, (operation.call disk header task file).result = .ok state →
      (operation.call disk header task file).completed
        (FileEffect.written (operation.call disk header task file).effects) =
      (operation.call disk header task file).record.toList) ∧
    (∀ error, (operation.call disk header task file).result = .error error →
      disk.flushWritten = true → (operation.call disk header task file).completed
        (FileEffect.written (operation.call disk header task file).effects) = []) := by
  rcases h.call operation disk with ⟨e, hcall⟩ | ⟨writes, hc⟩
  · rw [hcall]
    exact ⟨nofun, fun _ _ _ => rfl⟩
  rw [hc.written_effects]
  rcases hrecord : (operation.call disk header task file).record with _ | record
  · rw [JournalCall.completed_of_none hrecord]
    exact ⟨fun _ _ => rfl, fun _ _ _ => rfl⟩
  · rw [JournalCall.completed_of_some hrecord]
    have hiff := hc.returned_iff record hrecord
    refine ⟨fun state hs => ?_, fun error he hflush => ?_⟩
    · rw [if_pos (hiff.mp ⟨state, hs⟩).1]
      rfl
    · refine if_neg fun hw => ?_
      obtain ⟨state, hs⟩ := hiff.mpr ⟨hw, hflush⟩
      rw [he] at hs
      cases hs

/-- Every history leaves a file of the shape of its completed commits. -/
theorem History.shape {attempted : List RunCommit}
    (history : History header task attempted committed file)
    (henc : ∀ c ∈ attempted, Encodes c) : ∃ torn, JournalShape header committed torn file := by
  induction history with
  | created => exact ⟨[], rfl, List.not_mem_nil, trivial, by simp⟩
  | returned prior operation disk state result_eq ih =>
    rw [List.forall_mem_append] at henc
    obtain ⟨torn, h⟩ := ih henc.1
    rw [← (h.completed_written operation disk).1 state result_eq]
    exact h.step operation disk (fun c hc => henc.2 c (by simpa using hc))
      (FileEffect.Interrupted.complete _ _)
  | raised prior operation disk error result_eq ih =>
    rw [List.forall_mem_append] at henc
    obtain ⟨torn, h⟩ := ih henc.1
    exact h.step operation disk (fun c hc => henc.2 c (by simpa using hc))
      (FileEffect.Interrupted.complete _ _)
  | crashed prior operation disk interrupted ih =>
    rw [List.forall_mem_append] at henc
    obtain ⟨torn, h⟩ := ih henc.1
    exact h.step operation disk (fun c hc => henc.2 c (by simpa using hc)) interrupted

lemma JournalShape.truncateTorn_eq (h : JournalShape header committed torn file) :
    truncateTorn file (durablePrefix header committed) =
      if torn = [] then [] else [.truncate (commitLines committed).length] := by
  have hlength : file.length = (commitLines committed).length + torn.length := by
    rw [h.file_eq, List.length_append]
  by_cases htorn : torn = []
  · simp [truncateTorn, durablePrefix, hlength, htorn]
  · simp [truncateTorn, durablePrefix, hlength, htorn]

/-- A call that returns leaves exactly the lines of the commits. -/
lemma JournalShape.returned (h : JournalShape header committed torn file)
    (operation : JournalOperation) (disk : Disk)
    (hc : CallSpec header task operation committed file disk
      (operation.call disk header task file) writes)
    (hstate : (operation.call disk header task file).result = .ok state)
    (henc : ∀ c ∈ (operation.call disk header task file).record, Encodes c) :
    JournalShape header (committed ++ (operation.call disk header task file).record.toList) []
      (FileEffect.applyAll file (operation.call disk header task file).effects) := by
  rw [hc.applyAll h]
  rcases hrecord : (operation.call disk header task file).record with _ | record
  · rw [hc.silent hrecord, Option.toList_none, List.append_nil]
    exact h.retear List.not_mem_nil
  · rw [((hc.returned_iff record hrecord).mp ⟨state, hstate⟩).1]
    exact h.concat (henc record hrecord) (hc.linked record hrecord)

/-- Crash atomicity. Reading after any history returns the completed commits, in order; a call that
then succeeds first drops exactly the torn bytes and adds at most its own commit. -/
theorem journal_crash_atomic (header : RunHeader) (task : TaskSpec)
    (attempted committed : List RunCommit) (file : Bytes)
    (history : History header task attempted committed file)
    (encodes : ∀ c ∈ attempted, Encodes c) :
    ∃ torn, file = commitLines committed ++ torn ∧ LF ∉ torn ∧
      decodeDurablePrefix header file = .ok (durablePrefix header committed) ∧
      ∀ (operation : JournalOperation) (disk : Disk) (state : RunState),
        (operation.call disk header task file).result = .ok state →
        (∀ c ∈ (operation.call disk header task file).record, Encodes c) →
        (∃ writes, FileEffect.AppendOnly writes ∧
          (operation.call disk header task file).effects =
            (if torn = [] then [] else [.truncate (commitLines committed).length]) ++ writes) ∧
        (∀ c ∈ (operation.call disk header task file).record,
          operation.Requests header task (committed.flatMap RunCommit.events) c.events) ∧
        FileEffect.applyAll file (operation.call disk header task file).effects =
          commitLines (committed ++ (operation.call disk header task file).record.toList) ∧
        decodeDurablePrefix header
            (FileEffect.applyAll file (operation.call disk header task file).effects) =
          .ok (durablePrefix header
            (committed ++ (operation.call disk header task file).record.toList)) := by
  obtain ⟨torn, h⟩ := history.shape encodes
  refine ⟨torn, h.file_eq, h.torn_open, h.decode, ?_⟩
  intro operation disk state hstate henc
  rcases h.call operation disk with ⟨e, hcall⟩ | ⟨writes, hc⟩
  · rw [hcall] at hstate
    cases hstate
  have hshape := h.returned operation disk hc hstate henc
  refine ⟨⟨writes, hc.appendOnly, ?_⟩, hc.requested, ?_, hshape.decode⟩
  · rw [hc.effects_eq, h.truncateTorn_eq]
  · rw [hshape.file_eq, List.append_nil]

end Shape

end Atomicity

/-! ### A torn record -/

section TornRecord

local instance tornCanonical : Canonical := plainCanonical

/-- A disk that takes and flushes everything. -/
def soundDisk : Disk := { write := List.length }

/-- A disk that takes everything, and raises when a record is flushed. -/
def unflushedDisk : Disk := { soundDisk with flushWritten := false }

/-- A readable stand-in for the chain of digests. -/
@[reducible] def plainDigests : JournalDigests where
  journalAnchor header := "anchor:" ++ header.runId
  commitDigest previous events := previous ++ "/" ++ toString events.length

local instance tornDigests : JournalDigests := plainDigests

/-- The first commit of the small run. -/
def startCommit : RunCommit where
  previousRecordDigest := "anchor:run:t0"
  events := passingRun.take 1
  recordDigest := "anchor:run:t0/1"
  events_ne_nil := by decide
  digest_eq := by decide

/-- The commit that submits the candidate. -/
def submitCommit : RunCommit where
  previousRecordDigest := "anchor:run:t0/1"
  events := (passingRun.drop 1).take 1
  recordDigest := "anchor:run:t0/1/1"
  events_ne_nil := by decide
  digest_eq := by decide

def asciiBytes (text : String) : Bytes := text.toList.map fun c => UInt8.ofNat c.toNat

/-- The members of a commit in canonical order, the events by their sequence numbers. -/
def plainCommitBytes (c : RunCommit) : Bytes :=
  asciiBytes ("\x7b\"events\":" ++
    reprStrings (c.events.map fun e => toString e.base.sequence) ++
    ",\"previous_record_digest\":\"" ++ c.previousRecordDigest ++
    "\",\"record_digest\":\"" ++ c.recordDigest ++ "\"\x7d")

@[reducible] def plainCodec : CommitCodec where
  commitBytes := plainCommitBytes
  eventBytes e := asciiBytes (toString e.base.sequence)
  validateCommit line := [startCommit, submitCommit].find? fun c => plainCommitBytes c = line

local instance tornCodec : CommitCodec := plainCodec

def startCall : JournalCall :=
  (JournalOperation.append startCommit.events).call soundDisk gateHeader gateTask []

def submitCall : JournalCall :=
  (JournalOperation.append submitCommit.events).call soundDisk gateHeader gateTask
    (commitLines [startCommit])

/-- The first commit, and five bytes of the second. -/
def tornFile : Bytes := commitLines [startCommit] ++ (commitBytes submitCommit ++ [LF]).take 5

lemma plainCommits_encode : ∀ c ∈ [startCommit, submitCommit], Encodes c := by
  decide +kernel

lemma startCommit_encodes : Encodes startCommit := plainCommits_encode _ (List.mem_cons_self ..)

lemma submitCommit_encodes : Encodes submitCommit := plainCommits_encode _ (by simp)

/-- What the calls of the torn run return, record and write. -/
lemma tornCalls :
    (startCall.result.isOk = true ∧ startCall.record = some startCommit ∧
      FileEffect.applyAll [] startCall.effects = commitLines [startCommit]) ∧
    (submitCall.result.isOk = true ∧ submitCall.record = some submitCommit ∧
      submitCall.effects = [.append (commitBytes submitCommit ++ [LF])] ∧
      (commitBytes submitCommit ++ [LF]).take 5 ≠ commitBytes submitCommit ++ [LF]) ∧
    ((JournalOperation.append submitCommit.events).call soundDisk gateHeader gateTask
      tornFile).record = some submitCommit ∧
    ((JournalOperation.append submitCommit.events).call soundDisk gateHeader gateTask
      tornFile).result.isOk = true := by
  decide +kernel

lemma startCommit_history :
    History gateHeader gateTask [startCommit] [startCommit] (commitLines [startCommit]) := by
  obtain ⟨⟨hok, hrecord, hfile⟩, -⟩ := tornCalls
  obtain ⟨state, hstate⟩ := Except.exists_of_isOk hok
  have hstart : History gateHeader gateTask ([] ++ startCall.record.toList)
      ([] ++ startCall.record.toList) (FileEffect.applyAll [] startCall.effects) :=
    History.created.returned _ _ state hstate
  rwa [hrecord, hfile] at hstart

/-- The run is started, and the process dies while it submits the candidate. -/
lemma tornFile_history :
    History gateHeader gateTask [startCommit, submitCommit] [startCommit] tornFile := by
  obtain ⟨-, ⟨-, hrecord', heffects', hshort⟩, -⟩ := tornCalls
  have hcut : FileEffect.Interrupted submitCall.effects (commitLines [startCommit]) tornFile
      ((commitBytes submitCommit ++ [LF]).take 5) := by
    rw [heffects']
    exact .cut _ _ _ 5
  have hcompleted : submitCall.completed ((commitBytes submitCommit ++ [LF]).take 5) = [] := by
    rw [JournalCall.completed_of_some hrecord', if_neg hshort]
  have hcrash : History gateHeader gateTask ([startCommit] ++ submitCall.record.toList)
      ([startCommit] ++ submitCall.completed ((commitBytes submitCommit ++ [LF]).take 5))
      tornFile :=
    startCommit_history.crashed _ _ hcut
  rw [hrecord', hcompleted] at hcrash
  exact hcrash

/-- The torn submission is dropped, and submitting again completes it. -/
theorem tornFile_atomic :
    History gateHeader gateTask [startCommit, submitCommit] [startCommit] tornFile ∧
      decodeDurablePrefix gateHeader tornFile = .ok (durablePrefix gateHeader [startCommit]) ∧
      decodeDurablePrefix gateHeader (FileEffect.applyAll tornFile
          ((JournalOperation.append submitCommit.events).call soundDisk gateHeader gateTask
            tornFile).effects) =
        .ok (durablePrefix gateHeader [startCommit, submitCommit]) := by
  obtain ⟨_, -, -, hdecode, hnext⟩ :=
    journal_crash_atomic _ _ _ _ _ tornFile_history plainCommits_encode
  obtain ⟨-, -, hrecord, hok⟩ := tornCalls
  obtain ⟨state, hstate⟩ := Except.exists_of_isOk hok
  obtain ⟨-, -, -, hagain⟩ := hnext _ _ state hstate (by
    rw [hrecord]
    rintro c ⟨⟩
    exact submitCommit_encodes)
  rw [hrecord] at hagain
  exact ⟨tornFile_history, hdecode, hagain⟩

end TornRecord

end EdaGym
