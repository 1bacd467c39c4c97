import EdaGym.Lib.Triple
import EdaGym.Participants.Recorder
import EdaGym.Run.JournalAppend

/-!
# The journal in the hands of the runtime

A call of the runtime is a process over the journal of its run. What lies outside of it (clocks,
event identifiers, the disk, and everything it asks another component) answers once at a time, and
may answer differently each time.
-/

namespace EdaGym

open Process hiding ofExcept

/-- The exceptions of the runtime, as far as a handler tells them apart. -/
inductive RunError
  | journal (e : JournalError)
  | participant (kind : ParticipantFailureKind)
deriving DecidableEq, Repr

/-- An exception of the journal, or one that a factory raised through it. -/
def RunError.ofJournal : JournalError → RunError
  | .adapterError kind => .participant kind
  | e => .journal e

variable [Canonical]

/-- What becomes of a journal record: it is written, or it is not, or it is and the writer does not
learn of it. A process that dies finds none of its later records written. -/
inductive CommitFate
  | durable | lost | unconfirmed
deriving DecidableEq, Repr

/-- What a process changes: the journal, and the leases that it holds. `tick` counts what it has
asked the outside. -/
structure RunDesk where
  events : List RunEvent := []
  tick : Nat := 0
  lease : Bool := false
  storageLease : Bool := false

abbrev RunProcess (α : Type) := Process RunDesk RunError α

/-- The journal of a run, with the answers of its disk, its clock and its identifier factory. -/
structure RunHandle where
  header : RunHeader
  task : TaskSpec
  fate : Nat → CommitFate
  clock : Nat → Datetime
  eventIdFactory : Nat → UUID

/-- Ask the outside. -/
def ask {α : Type} (answer : Nat → α) : RunProcess α := fun s =>
  (.ok (answer s.tick), { s with tick := s.tick + 1 })

namespace RunHandle

variable (journal : RunHandle)

def readEvents : RunProcess (List RunEvent) := fun s =>
  (((replay journal.header journal.task s.events).mapError RunError.ofJournal).map fun _ =>
    s.events, s)

def state : RunProcess RunState := fun s =>
  ((replay journal.header journal.task s.events).mapError RunError.ofJournal, s)

/-- Write the record that `decision` admits after the committed events, if it admits a new one. -/
def commit (decision : List RunEvent → Except JournalError (RunState × List RunEvent)) :
    RunProcess RunState := fun s =>
  match decision s.events with
  | .error e => (.error (.ofJournal e), s)
  | .ok (state, requested) =>
    let asked := { s with tick := s.tick + 1 }
    let written := { asked with events := s.events ++ requested }
    if requested = [] then (.ok state, s)
    else
      match journal.fate s.tick with
      | .durable => (.ok state, written)
      | .lost => (.error (.journal (.osError "short write while committing journal data")), asked)
      | .unconfirmed =>
        (.error (.journal (.osError "short write while committing journal data")), written)

/-- The state on which a transaction builds. -/
def openState : RunProcess RunState := do
  let state ← journal.state
  Process.ofExcept (raiseIf (state.terminalReason ≠ none)
    (.journal (.invalidTransition "a terminated run cannot accept another event")))
  return state

/-- Build related events and commit them in one record. The factory may ask for identifiers and for
the time. -/
def transactEvents (factory : RunState → RunProcess (List RunEvent)) : RunProcess RunState := do
  let state ← journal.openState
  let requested ← factory state
  journal.commit (admitTransact journal.header journal.task fun _ => .ok requested)

/-- An event that the runtime builds on the current state, given its identifier and time. -/
def transact (event : RunState → UUID → Datetime → RunEvent) : RunProcess RunState :=
  journal.transactEvents fun state => do
    let eventId ← ask journal.eventIdFactory
    let timestamp ← ask journal.clock
    return [event state eventId timestamp]

end RunHandle

end EdaGym
