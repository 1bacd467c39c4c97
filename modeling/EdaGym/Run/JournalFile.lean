import EdaGym.Lib.Lines
import EdaGym.Run.Replay

/-!
# The run journal as a file

Every line of the journal file is the canonical encoding of one hash-chained commit. A writer holds
the file lock from the first read to the last write, so calls never overlap, but any call may be cut
short and leave a torn record behind.
-/

namespace EdaGym

variable [Canonical]

/-- The links of the hash chain. -/
class JournalDigests where
  journalAnchor : RunHeader → Digest
  commitDigest : Digest → List RunEvent → Digest

export JournalDigests (journalAnchor commitDigest)

variable [JournalDigests]

/-- One crash-atomic, hash-chained group in a persisted run record. -/
structure RunCommit where
  previousRecordDigest : Digest
  events : List RunEvent
  recordDigest : Digest
  events_ne_nil : events ≠ []
  digest_eq : recordDigest = commitDigest previousRecordDigest events
deriving DecidableEq

def RunCommit.fromEvents (previousRecordDigest : Digest) (events : List RunEvent) :
    Except JournalError RunCommit :=
  if h : events = [] then .error (.valueError "events")
  else .ok {
    previousRecordDigest
    events
    recordDigest := commitDigest previousRecordDigest events
    events_ne_nil := h
    digest_eq := rfl }

/-- Canonical JSON of commits and events, and the validation of a line as a commit. -/
class CommitCodec where
  commitBytes : RunCommit → Bytes
  eventBytes : RunEvent → Bytes
  validateCommit : Bytes → Option RunCommit

export CommitCodec (commitBytes eventBytes validateCommit)

variable [CommitCodec]

/-! ### Reading -/

structure DurablePrefix where
  events : List RunEvent
  durableLength : Nat
  headDigest : Digest
  records : List RunCommit

/-- Check one durable line against the chain and take its commit over. -/
def decodeRecord (acc : DurablePrefix) (line : Bytes) : Except JournalError DurablePrefix := do
  raiseIf (line = []) (.corruption "journal contains an empty durable record")
  let record ← orRaise (validateCommit line)
    (.corruption "journal contains an invalid durable record")
  raiseIf (commitBytes record ≠ line) (.corruption "journal record is not canonically encoded")
  raiseIf (record.previousRecordDigest ≠ acc.headDigest)
    (.corruption "journal record hash chain is discontinuous")
  return { acc with
    events := acc.events ++ record.events
    records := acc.records ++ [record]
    headDigest := record.recordDigest }

def decodeDurablePrefix (header : RunHeader) (data : Bytes) : Except JournalError DurablePrefix :=
  let start : DurablePrefix :=
    { events := [], durableLength := 0, headDigest := journalAnchor header, records := [] }
  if data = [] then .ok start
  else
    let length := durableLength data
    foldSteps decodeRecord { start with durableLength := length } (splitlines (data.take length))

/-! ### Writing -/

/-- What one call does to the file, the record it sets out to append, and what it returns. -/
structure JournalCall where
  effects : List FileEffect
  record : Option RunCommit := none
  result : Except JournalError RunState

/-- Drop the torn tail of the file, if it has one. -/
def truncateTorn (data : Bytes) (durable : DurablePrefix) : List FileEffect :=
  if durable.durableLength ≠ data.length then [.truncate durable.durableLength] else []

/-- Read the journal under the lock, drop its torn tail, and append what `decision` asks for. What a
flush that raises was to make durable stays in the file. -/
def lockedCall (disk : Disk) (header : RunHeader) (data : Bytes)
    (decision : DurablePrefix → Except JournalError (RunState × Option RunCommit)) :
    JournalCall :=
  match decodeDurablePrefix header data with
  | .error e => { effects := [], result := .error e }
  | .ok durable =>
    if truncateTorn data durable ≠ [] ∧ disk.flushTruncated = false then
      { effects := truncateTorn data durable, result := .error (.osError "Input/output error") }
    else
      match decision durable with
      | .error e => { effects := truncateTorn data durable, result := .error e }
      | .ok (state, none) => { effects := truncateTorn data durable, result := .ok state }
      | .ok (state, some record) =>
        let writes := writeAllFd disk.write (commitBytes record ++ [LF])
        { effects := truncateTorn data durable ++ writes.1
          record := some record
          result :=
            if writes.2 = false then
              .error (.osError "short write while committing journal data")
            else if disk.flushWritten then .ok state
            else .error (.osError "Input/output error") }

section Decisions

variable (header : RunHeader) (task : TaskSpec)

/-- The events own the journal positions after the committed ones. -/
def OwnPositions (committed requested : List RunEvent) : Prop :=
  requested.map (fun e => e.base.sequence) = List.range' committed.length requested.length

instance (committed requested : List RunEvent) : Decidable (OwnPositions committed requested) :=
  inferInstanceAs (Decidable (_ = _))

/-- Either all requested events are already committed with the same content, or none is; returns
the resulting state and whether the events are new. -/
def admitAppend (requested committed : List RunEvent) : Except JournalError (RunState × Bool) := do
  let committedById : Dict UUID RunEvent :=
    Dict.ofList (committed.map fun e => (e.base.eventId, e))
  raiseIf (¬ (requested.map fun e => e.base.eventId).Nodup)
    (.eventConflict "one journal record cannot reuse an event identifier")
  if ∃ e ∈ requested, e.base.eventId ∈ committedById then
    raiseIf (∃ e ∈ requested, e.base.eventId ∉ committedById)
      (.eventConflict "journal record is only partially committed")
    raiseIf (∃ e ∈ requested, (committedById.get? e.base.eventId).map eventBytes ≠
        some (eventBytes e))
      (.eventConflict "event identifier already owns different content")
    let state ← replay header task committed
    return (state, false)
  raiseIf (¬ OwnPositions committed requested)
    (.eventConflict "event sequence does not own its journal position")
  let committedState ← replay header task committed
  raiseIf (committedState.terminalReason ≠ none)
    (.invalidTransition "a terminated run cannot accept another event")
  let state ← replay header task (committed ++ requested)
  return (state, true)

def decideAppend (requested : List RunEvent) (durable : DurablePrefix) :
    Except JournalError (RunState × Option RunCommit) := do
  let (state, new) ← admitAppend header task requested durable.events
  if new then
    let record ← RunCommit.fromEvents durable.headDigest requested
    return (state, some record)
  return (state, none)

/-- The events a factory asks for, once the journal admits them after the committed ones, and the
resulting state. -/
def admitTransact (factory : RunState → Except JournalError (List RunEvent))
    (committed : List RunEvent) : Except JournalError (RunState × List RunEvent) := do
  let committedState ← replay header task committed
  raiseIf (committedState.terminalReason ≠ none)
    (.invalidTransition "a terminated run cannot accept another event")
  let requested ← factory committedState
  raiseIf (requested = []) (.valueError "a journal transaction must contain at least one event")
  raiseIf (¬ (requested.map fun e => e.base.eventId).Nodup)
    (.eventConflict "transaction reused an event identifier")
  raiseIf (∃ e ∈ requested, e.base.eventId ∈ committed.map fun c => c.base.eventId)
    (.eventConflict "transaction reused a committed event identifier")
  raiseIf (¬ OwnPositions committed requested)
    (.eventConflict "transaction did not own its journal position")
  let state ← replay header task (committed ++ requested)
  return (state, requested)

def decideTransact (factory : RunState → Except JournalError (List RunEvent))
    (durable : DurablePrefix) : Except JournalError (RunState × Option RunCommit) := do
  let (state, requested) ← admitTransact header task factory durable.events
  let record ← RunCommit.fromEvents durable.headDigest requested
  return (state, some record)

/-- Commit related events as one crash-atomic journal record. -/
def appendEvents (disk : Disk) (requested : List RunEvent) (data : Bytes) : JournalCall :=
  if requested = [] then
    { effects := []
      result := .error (.valueError "a journal record must contain at least one event") }
  else lockedCall disk header data (decideAppend header task requested)

/-- Build related events and commit them in one durable journal record. -/
def transactEvents (disk : Disk)
    (factory : RunState → Except JournalError (List RunEvent)) (data : Bytes) : JournalCall :=
  lockedCall disk header data (decideTransact header task factory)

end Decisions

end EdaGym
