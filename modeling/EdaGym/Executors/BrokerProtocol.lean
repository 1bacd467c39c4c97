import EdaGym.Lib.Interleaving

/-!
# The libvirt broker and one invocation

What the operations of the broker do to the fence and the durable record of one invocation and to
its domain. Every operation runs under the lock of the invocation, and a launch lets `virsh` have
the lock. Other invocations read the record at most.
-/

namespace EdaGym

/-! ### Files and the domain -/

/-- `LibvirtBrokerRecord`: its phase, and the result that a terminal record carries. -/
inductive LibvirtBrokerRecord (ρ : Type)
  | prepared
  | defined
  | running
  | terminal (result : ρ)

/-- What stands at a path; a file that was not written to its end is torn. -/
inductive BrokerFile (α : Type)
  | absent
  | torn
  | file (a : α)

/-- A domain that is not persistent is gone when it ends. -/
inductive LibvirtDomain
  | absent
  | shutOff
  | active (persistent : Bool)
deriving DecidableEq

/-- What callers of the broker see of an operation on the invocation. -/
inductive BrokerReport (ρ : Type)
  | launched
  /-- The handle is active: the operation goes on with the record. -/
  | owned
  /-- `inspect` and `cancel`: a result, or the guest is running. -/
  | state (result : Option ρ)
  | collected (result : ρ)
  | unknownJob
  | notCanonical
  /-- `VmIsolationCleanup`, and which resources remain. -/
  | cleanup (lifecycleFenceDigest : String) (machine controlChannel : Bool)

structure BrokerWorld (ρ : Type) where
  jobDirectory : Bool := false
  /-- The digest in the fence. -/
  fence : BrokerFile String := .absent
  record : BrokerFile (LibvirtBrokerRecord ρ) := .absent
  domain : LibvirtDomain := .absent
  /-- How often the domain was defined and started. -/
  definitions : Nat := 0
  starts : Nat := 0
  reports : List (BrokerReport ρ) := []

variable {ρ : Type}

namespace BrokerWorld

def defineDomain (s : BrokerWorld ρ) : BrokerWorld ρ :=
  { s with
    domain := if s.domain = .absent ∨ s.domain = .shutOff then .shutOff else .active true
    definitions := s.definitions + 1 }

def startDomain (s : BrokerWorld ρ) : BrokerWorld ρ :=
  { s with domain := .active true, starts := s.starts + 1 }

/-- The domain ends, by `virsh destroy` or because the guest does. -/
def destroyDomain (s : BrokerWorld ρ) : BrokerWorld ρ :=
  { s with
    domain := match s.domain with
      | .active true => .shutOff
      | .active false => .absent
      | domain => domain }

def undefineDomain (s : BrokerWorld ρ) : BrokerWorld ρ :=
  { s with
    domain := match s.domain with
      | .active _ => .active false
      | _ => .absent }

end BrokerWorld

/-! ### Calls -/

/-- Calls that succeed or raise. -/
inductive BrokerAct (ρ : Type)
  /-- A check, or a change of something else. -/
  | check
  | makeDirectory
  | createFence (lifecycleFenceDigest : String)
  | createRecord
  | writeRecord (r : LibvirtBrokerRecord ρ)
  | define
  | start
  | destroy
  | undefine

inductive BrokerCall (ρ : Type)
  | act (a : BrokerAct ρ)
  /-- A question that is answered by something else. -/
  | ask
  | jobDirectoryExists
  | fenceExists
  | recordExists
  | loadFence
  | loadRecord
  | domuuid
  /-- `_domain_name_exists`: the last question of `abandon`. -/
  | domainNameExists
  /-- The guest is asked for its status, and its result is stored. -/
  | exchange
  | report (r : BrokerReport ρ)

/-- What a call answers. The outer `none` is an exception; of the record the inner one says that it
cannot be read. -/
@[reducible] def BrokerCall.Answer : BrokerCall ρ → Type
  | .act _ => Bool
  | .ask => Bool
  | .jobDirectoryExists => Bool
  | .fenceExists => Bool
  | .recordExists => Bool
  | .loadFence => Option String
  | .loadRecord => Option (Option (LibvirtBrokerRecord ρ))
  | .domuuid => Option Bool
  | .domainNameExists => Option Bool
  | .exchange => Option (Option ρ)
  | .report _ => Unit

/-- What is left by a call that succeeds or raises. -/
def BrokerAct.exec : BrokerAct ρ → BrokerWorld ρ → Bool → BrokerWorld ρ → Prop
  | .check, s, _, s' => s' = s
  | .makeDirectory, s, true, s' => s.jobDirectory = false ∧ s' = { s with jobDirectory := true }
  | .makeDirectory, s, false, s' => s' = s
  | .createFence d, s, true, s' => s.fence = .absent ∧ s' = { s with fence := .file d }
  -- a file is created, written and synchronised; it can stay behind at any point
  | .createFence d, s, false, s' => s' = s ∨ s.fence = .absent ∧
    (s' = { s with fence := .torn } ∨ s' = { s with fence := .file d })
  | .createRecord, s, true, s' => s.record = .absent ∧ s' = { s with record := .file .prepared }
  | .createRecord, s, false, s' => s' = s ∨ s.record = .absent ∧
    (s' = { s with record := .torn } ∨ s' = { s with record := .file .prepared })
  | .writeRecord r, s, true, s' => s' = { s with record := .file r }
  -- the record can have been replaced when the directory cannot be synchronised
  | .writeRecord r, s, false, s' => s' = s ∨ s' = { s with record := .file r }
  | .define, s, true, s' => s' = s.defineDomain
  | .define, s, false, s' => s' = s ∨ s' = s.defineDomain
  | .start, s, true, s' => s.domain = .shutOff ∧ s' = s.startDomain
  | .start, s, false, s' => s' = s ∨ s.domain = .shutOff ∧ s' = s.startDomain
  | .destroy, s, _, s' => s' = s ∨ s' = s.destroyDomain
  | .undefine, s, _, s' => s' = s ∨ s' = s.undefineDomain

/-- What `_load_record` makes of a file: a torn record is refused in one way or the other. -/
def BrokerFile.Loads : BrokerFile (LibvirtBrokerRecord ρ) →
    Option (Option (LibvirtBrokerRecord ρ)) → Prop
  | .absent, answer => answer = some none
  | .torn, answer => answer = none ∨ answer = some none
  | .file r, answer => answer = some (some r) ∨ answer = some none

/-- What a call answers and does. -/
def BrokerCall.exec : (c : BrokerCall ρ) → BrokerWorld ρ → c.Answer → BrokerWorld ρ → Prop
  | .act a, s, r, s' => a.exec s r s'
  | .ask, s, _, s' => s' = s
  | .jobDirectoryExists, s, r, s' => s' = s ∧ (r = true ↔ s.jobDirectory = true)
  | .fenceExists, s, r, s' => s' = s ∧ (r = true ↔ s.fence ≠ .absent)
  | .recordExists, s, r, s' => s' = s ∧ (r = true ↔ s.record ≠ .absent)
  | .loadFence, s, r, s' => s' = s ∧ ∀ d, r = some d → s.fence = .file d
  | .loadRecord, s, r, s' => s' = s ∧ s.record.Loads r
  -- `virsh` fails where there is no domain, and where it cannot tell
  | .domuuid, s, r, s' => s' = s ∧ (r = some true → s.domain ≠ .absent)
  | .domainNameExists, s, r, s' => s' = s ∧ (r = some true → s.domain ≠ .absent)
  | .exchange, s, _, s' => s' = s
  | .report r, s, _, s' => s' = { s with reports := s.reports ++ [r] }

/-- `virsh` can tell at the end of `abandon`: it fails only where there is no domain. -/
def BrokerCall.Truthful : (c : BrokerCall ρ) → BrokerWorld ρ → c.Answer → Prop
  | .domainNameExists, s, r => r = some false → s.domain = .absent
  | _, _, _ => True

/-- The commands of `virsh` are processes, and those of a launch have the lock. -/
def BrokerCall.lingers : BrokerCall ρ → Bool
  | .act .define => true
  | .act .start => true
  | .act .destroy => true
  | .act .undefine => true
  | .ask => true
  | .domuuid => true
  | .domainNameExists => true
  | _ => false

def BrokerCall.inherits : BrokerCall ρ → Bool
  | .act .define => true
  | .act .start => true
  | _ => false

/-! ### Operations -/

abbrev BrokerProgram (ρ α : Type) := Program (BrokerCall ρ) BrokerCall.Answer α

namespace BrokerProgram

open Program

def attempt (a : BrokerAct ρ) : BrokerProgram ρ Unit := do
  let r ← perform (.act a)
  raiseUnless (r = true)

/-- A command that is allowed to fail. -/
def suppress (a : BrokerAct ρ) : BrokerProgram ρ Unit := do
  let _ ← perform (.act a)
  -- it may be impossible to run
  attempt .check

def report (r : BrokerReport ρ) : BrokerProgram ρ Unit := do
  let _ ← perform (.report r)
  return ()

def loadRecord : BrokerProgram ρ (Option (Option (LibvirtBrokerRecord ρ))) :=
  perform BrokerCall.loadRecord

def domainExists : BrokerProgram ρ Bool := do
  let answer ← perform .domuuid
  orFail answer

/-- `_destroy_domain`. -/
def destroyDomain : BrokerProgram ρ Unit := do
  let present ← domainExists
  if present = true then do
    -- the identity and the definition of the domain
    attempt .check
    let alive ← perform .ask
    if alive = true then do
      attempt .destroy
      suppress .undefine
    else suppress .undefine
  else return ()

/-- `_destroy_unrecorded_domain`. -/
def destroyUnrecordedDomain : BrokerProgram ρ Unit := do
  let present ← domainExists
  if present = true then do
    attempt .check
    suppress .destroy
    suppress .undefine
  else return ()

/-- `_owned_record`, for a handle with the executor and the record's own identity, or not. -/
def ownedRecord (ownExecutor sameHandle : Bool) : BrokerProgram ρ (LibvirtBrokerRecord ρ) := do
  if ownExecutor = true then do
    let answer ← loadRecord
    match answer with
    | none => do
      report .notCanonical
      raise
    | some none => do
      report .unknownJob
      raise
    | some (some r) => do
      let fenced ← perform .fenceExists
      if sameHandle = false ∨ fenced = true then do
        report .unknownJob
        raise
      else do
        report .owned
        return r
  else do
    report .unknownJob
    raise

/-- `_launch_locked`. -/
def launch : BrokerProgram ρ Unit := do
  -- the environment, the grants, the image, and the slots of the environment
  attempt .check
  let fenced ← perform .fenceExists
  raiseUnless (fenced = false)
  let present ← perform .jobDirectoryExists
  raiseUnless (present = false)
  attempt .makeDirectory
  -- the transfer trees, the request and its file
  attempt .check
  attempt .createRecord
  -- the file of the domain
  attempt .check
  attempt .define
  attempt (.writeRecord .defined)
  attempt .start
  -- the definition, and the guest's acceptance
  attempt .check
  attempt (.writeRecord .running)
  report .launched

/-- The end of `inspect` and `cancel`. -/
def conclude (result : ρ) : BrokerProgram ρ Unit := do
  attempt (.writeRecord (.terminal result))
  report (.state (some result))

def inspect (ownExecutor sameHandle : Bool) (lost : ρ) : BrokerProgram ρ Unit := do
  let r ← ownedRecord ownExecutor sameHandle
  match r with
  | .terminal result => report (.state (some result))
  | _ => do
    let present ← domainExists
    if present = true then do
      attempt .check
      let answer ← perform .exchange
      let reply ← orFail answer
      match reply with
      | none => report (.state none)
      | some result => conclude result
    else do
      attempt .check
      conclude lost

def cancel (ownExecutor sameHandle : Bool) (cancelled : ρ) : BrokerProgram ρ Unit := do
  let r ← ownedRecord ownExecutor sameHandle
  match r with
  | .terminal result => report (.state (some result))
  | _ => do
    let present ← domainExists
    if present = true then do
      attempt .check
      let _ ← perform .exchange
      destroyDomain
      attempt .check
      conclude cancelled
    else do
      attempt .check
      conclude cancelled

/-- `collect`, after its `inspect`. -/
def collect (ownExecutor sameHandle : Bool) : BrokerProgram ρ Unit := do
  let r ← ownedRecord ownExecutor sameHandle
  match r with
  | .terminal result => do
    destroyDomain
    report (.collected result)
  | _ => raise

/-- The fence, which is there or is created. -/
def requireFence (lifecycleFenceDigest : String) : BrokerProgram ρ String := do
  let fenced ← perform .fenceExists
  if fenced = true then do
    let answer ← perform .loadFence
    orFail answer
  else do
    attempt (.createFence lifecycleFenceDigest)
    return lifecycleFenceDigest

/-- The end of `abandon`. -/
def reportCleanup (d : String) : BrokerProgram ρ Unit := do
  -- the request, the definition and the control channel are removed
  attempt .check
  let answer ← perform .domainNameExists
  let machine ← orFail answer
  let controlChannel ← perform .ask
  report (.cleanup d machine controlChannel)

def requireDirectory : BrokerProgram ρ Unit := do
  let present ← perform .jobDirectoryExists
  if present = true then return () else attempt .makeDirectory

def abandon (lifecycleFenceDigest : String) : BrokerProgram ρ Unit := do
  requireDirectory
  let d ← requireFence lifecycleFenceDigest
  let present ← perform .recordExists
  if present = true then do
    let answer ← loadRecord
    let found ← orFail answer
    match found with
    | none => do
      report .unknownJob
      raise
    | some _ => do
      destroyDomain
      reportCleanup d
  else do
    destroyUnrecordedDomain
    reportCleanup d

end BrokerProgram

/-- The brokers on one state root, as they act on one invocation, when calls are answered so. -/
def brokerSetting (ρ : Type) (answered : (c : BrokerCall ρ) → BrokerWorld ρ → c.Answer → Prop) :
    Setting (BrokerWorld ρ) (BrokerCall ρ) BrokerCall.Answer where
  exec c s r s' := c.exec s r s' ∧ answered c s r
  lingers := BrokerCall.lingers
  inherits := BrokerCall.inherits
  env s s' := s' = s.destroyDomain
  locked p :=
    p = BrokerProgram.launch ∨
    (∃ ownExecutor sameHandle lost, p = BrokerProgram.inspect ownExecutor sameHandle lost) ∨
    (∃ ownExecutor sameHandle cancelled,
      p = BrokerProgram.cancel ownExecutor sameHandle cancelled) ∨
    (∃ ownExecutor sameHandle, p = BrokerProgram.collect ownExecutor sameHandle) ∨
    ∃ lifecycleFenceDigest, p = BrokerProgram.abandon lifecycleFenceDigest
  free _ := False

end EdaGym
