import EdaGym.Lib.Interleaving
import Mathlib.Data.List.Forall2

/-!
# The Slurm executor and one invocation

What the operations of the executor do to the durable record of one invocation and to the batch
jobs that carry its name and comment. The operations run under the lock of the invocation; a launch
of another invocation looks at the record without it, to count the slots that are taken.
-/

namespace EdaGym

/-! ### Jobs and records -/

def QUEUED_SLURM_STATES : List String :=
  ["PENDING", "REQUEUED", "REQUEUE_FED", "REQUEUE_HOLD", "RESIZING"]

def ACTIVE_SLURM_STATES : List String :=
  ["COMPLETING", "CONFIGURING", "RUNNING", "SIGNALING", "STAGE_OUT", "STOPPED", "SUSPENDED"]

def TERMINAL_SLURM_STATES : List String :=
  ["BOOT_FAIL", "CANCELLED", "COMPLETED", "DEADLINE", "FAILED", "NODE_FAIL", "OUT_OF_MEMORY",
    "PREEMPTED", "REVOKED", "SPECIAL_EXIT", "TIMEOUT"]

/-- `_ActiveSlurmJob`: what `scontrol show job` says of a job. -/
structure ActiveSlurmJob where
  schedulerJobId : String
  submitTime : String
  userId : Nat
  state : String
  reason : String
  restarts : Nat

def ActiveSlurmJob.Terminal (j : ActiveSlurmJob) : Prop := j.state ∈ TERMINAL_SLURM_STATES

instance (j : ActiveSlurmJob) : Decidable j.Terminal := inferInstanceAs (Decidable (_ ∈ _))

def ActiveSlurmJob.Held (j : ActiveSlurmJob) : Prop :=
  j.state ∈ QUEUED_SLURM_STATES ∧ j.reason = "JobHeldUser"

instance (j : ActiveSlurmJob) : Decidable j.Held := inferInstanceAs (Decidable (_ ∧ _))

/-- A job of the scheduler with the name and comment of the invocation. -/
structure SlurmJob extends ActiveSlurmJob where
  /-- Whether it was released from the hold that it was submitted with. -/
  released : Bool := false

/-- `SlurmJobRecord`, with the fields that its phase has. -/
inductive SlurmJobRecord (ρ : Type)
  | prepared
  | accepted (schedulerJobId : String) (schedulerCluster : Option String)
  | submitted (schedulerJobId : String) (schedulerCluster : Option String)
      (schedulerSubmitTime : String) (schedulerUid : Nat) (result : Option ρ)
  | abandoned

/-- What stands at the path of the record; a record that was not written to its end is torn. -/
inductive SlurmRecordFile (ρ : Type)
  | absent
  | torn
  | record (r : SlurmJobRecord ρ)

structure SlurmWorld (ρ : Type) where
  directory : Bool := false
  control : Bool := false
  /-- The manifest, the worker and the script. -/
  launchFiles : Bool := false
  file : SlurmRecordFile ρ := .absent
  jobs : List SlurmJob := []

/-! ### Calls -/

variable {ρ : Type}

/-- Calls that succeed or raise. -/
inductive SlurmAct (ρ : Type)
  /-- A check, or a read of something else. -/
  | check
  | makeDirectory
  | makeControl
  | createRecord (r : SlurmJobRecord ρ)
  | writeLaunchFiles
  | writeRecord (r : SlurmJobRecord ρ)
  | removeControl
  | removeDirectory
  | release (schedulerJobId : String)
  | scancel (schedulerJobId : String)

inductive SlurmCall (ρ : Type)
  | act (a : SlurmAct ρ)
  /-- A question that is answered by something else. -/
  | ask
  /-- `record_path.exists()`. -/
  | exists
  | loadRecord
  | sbatch
  | squeue
  | showJob (schedulerJobId : String)
  /-- `_job_state`, and the outputs of a job that has ended. -/
  | observe

/-- What a call answers. The outer `none` is an exception; `showJob` answers nothing of a job with
another name or comment, and `observe` nothing of a job that has not ended. -/
@[reducible] def SlurmCall.Answer : SlurmCall ρ → Type
  | .act _ => Bool
  | .ask => Bool
  | .exists => Bool
  | .loadRecord => Option (SlurmJobRecord ρ)
  | .sbatch => Option (String × Option String)
  | .squeue => Option (List String)
  | .showJob _ => Option (Option ActiveSlurmJob)
  | .observe => Option (Option ρ)

/-- What can become of a job. It is held until it is released, and what is terminal stays so. -/
structure SlurmJob.Becomes (j j' : SlurmJob) : Prop where
  schedulerJobId : j'.schedulerJobId = j.schedulerJobId
  submitTime : j'.submitTime = j.submitTime
  userId : j'.userId = j.userId
  released : j'.released = j.released
  terminal : j.Terminal → j'.Terminal
  held : j.released = false → ¬ j'.Terminal → j'.state ∈ QUEUED_SLURM_STATES

/-- The scheduler goes on. -/
def SlurmWorld.SchedulerGoesOn (s s' : SlurmWorld ρ) : Prop :=
  ∃ jobs, List.Forall₂ SlurmJob.Becomes s.jobs jobs ∧ s' = { s with jobs }

/-- A release of a job that has not ended takes effect. -/
def SlurmJob.release (schedulerJobId : String) (j : SlurmJob) : SlurmJob :=
  if j.schedulerJobId = schedulerJobId ∧ ¬ j.Terminal then { j with released := true } else j

def SlurmWorld.releaseJob (s : SlurmWorld ρ) (schedulerJobId : String) : SlurmWorld ρ :=
  { s with jobs := s.jobs.map (SlurmJob.release schedulerJobId) }

/-- What the answer of `squeue` to the name of the job has to have in it. -/
def SlurmWorld.Lists (s : SlurmWorld ρ) (ids : List String) : Prop :=
  ∀ j ∈ s.jobs, ¬ j.Terminal → j.schedulerJobId ∈ ids

/-- What `scontrol show job` says of a job of the invocation, or of another. -/
def SlurmWorld.Shows (s : SlurmWorld ρ) (id : String) : Option ActiveSlurmJob → Prop
  | none => ∀ j ∈ s.jobs, j.schedulerJobId ≠ id
  | some shown => shown.schedulerJobId = id ∧ ∃ j ∈ s.jobs, j.toActiveSlurmJob = shown

/-- What is left by a call that succeeds or raises. -/
def SlurmAct.exec : SlurmAct ρ → SlurmWorld ρ → Bool → SlurmWorld ρ → Prop
  | .check, s, _, s' => s' = s
  | .makeDirectory, s, true, s' => s.directory = false ∧ s' = { s with directory := true }
  | .makeControl, s, true, s' => s' = { s with control := true }
  | .createRecord r, s, true, s' => s.file = .absent ∧ s' = { s with file := .record r }
  -- the file is created, written and synchronised; it can stay behind at any point
  | .createRecord r, s, false, s' => s' = s ∨ s.file = .absent ∧
    (s' = { s with file := .torn } ∨ s' = { s with file := .record r })
  | .writeLaunchFiles, s, _, s' => s' = s ∨ s' = { s with launchFiles := true }
  | .writeRecord r, s, true, s' => s' = { s with file := .record r }
  -- the record can have been replaced when the directory cannot be synchronised
  | .writeRecord r, s, false, s' => s' = s ∨ s' = { s with file := .record r }
  | .removeControl, s, true, s' => s' = { s with control := false }
  -- a directory with anything in it is not removed
  | .removeDirectory, s, true, s' => s.file = .absent ∧ s.launchFiles = false ∧
    s' = { s with directory := false }
  | .release id, s, _, s' => s' = s ∨ s' = s.releaseJob id
  | .scancel _, s, _, s' => s.SchedulerGoesOn s'
  | .makeDirectory, s, false, s' => s' = s
  | .makeControl, s, false, s' => s' = s
  | .removeControl, s, false, s' => s' = s
  | .removeDirectory, s, false, s' => s' = s

/-- What a call answers and does. -/
def SlurmCall.exec : (c : SlurmCall ρ) → SlurmWorld ρ → c.Answer → SlurmWorld ρ → Prop
  | .act a, s, r, s' => a.exec s r s'
  | .ask, s, _, s' => s' = s
  | .exists, s, r, s' => s' = s ∧ (r = true ↔ s.file ≠ .absent)
  | .loadRecord, s, r, s' => s' = s ∧ ∀ record, r = some record → s.file = .record record
  | .sbatch, s, r, s' => (r = none ∧ s' = s) ∨ ∃ job : SlurmJob,
    job.released = false ∧ job.state ∈ QUEUED_SLURM_STATES ∧
      s' = { s with jobs := s.jobs ++ [job] } ∧
        (r = none ∨ ∃ cluster, r = some (job.schedulerJobId, cluster))
  | .squeue, s, r, s' => s' = s ∧ ∀ ids, r = some ids → s.Lists ids
  | .showJob id, s, r, s' => s' = s ∧ ∀ shown, r = some shown → s.Shows id shown
  | .observe, s, _, s' => s' = s

/-- The scheduler's commands are processes, and the submission has the locks. -/
def SlurmCall.lingers : SlurmCall ρ → Bool
  | .act (.release _) => true
  | .act (.scancel _) => true
  | .sbatch => true
  | .squeue => true
  | .showJob _ => true
  | .observe => true
  | _ => false

def SlurmCall.inherits : SlurmCall ρ → Bool
  | .sbatch => true
  | _ => false

/-! ### Operations -/

abbrev SlurmProgram (ρ α : Type) := Program (SlurmCall ρ) SlurmCall.Answer α

namespace SlurmProgram

open Program

def attempt (a : SlurmAct ρ) : SlurmProgram ρ Unit := do
  let r ← perform (.act a)
  raiseUnless (r = true)

def loadRecord : SlurmProgram ρ (SlurmJobRecord ρ) := do
  let r ← perform .loadRecord
  orFail r

def writeRecord (r : SlurmJobRecord ρ) : SlurmProgram ρ (SlurmJobRecord ρ) := do
  attempt (.writeRecord r)
  return r

/-- `_queued_job_ids`. -/
def queuedJobIds (schedulerJobId : Option String) : SlurmProgram ρ (List String) := do
  let listed ← perform .squeue
  let ids ← orFail listed
  raiseUnless (ids.length ≤ 64 ∧ ids.Nodup)
  match schedulerJobId with
  | none => return ids
  | some id => return ids.filter (· = id)

/-- `_scheduler_job`. -/
def schedulerJob (id : String) (exactIdentity : Bool) :
    SlurmProgram ρ (Option ActiveSlurmJob) := do
  let answer ← perform (.showJob id)
  let shown ← orFail answer
  match shown with
  | none => do
    raiseUnless (exactIdentity = false)
    return none
  | some job => do
    raiseUnless (job.restarts = 0)
    return some job

/-- The loop of `_matching_scheduler_jobs`. -/
def matchingJobs (exactIdentity : Bool) (submitTime : Option String) (schedulerUid : Option Nat) :
    List String → SlurmProgram ρ (List ActiveSlurmJob)
  | [] => return []
  | id :: ids => do
    let shown ← schedulerJob id exactIdentity
    match shown with
    | none => matchingJobs exactIdentity submitTime schedulerUid ids
    | some job => do
      raiseUnless (∀ time, submitTime = some time → job.submitTime = time)
      raiseUnless (∀ uid, schedulerUid = some uid → job.userId = uid)
      let jobs ← matchingJobs exactIdentity submitTime schedulerUid ids
      return job :: jobs

/-- `_matching_scheduler_jobs`. -/
def matchingSchedulerJobs (schedulerJobId submitTime : Option String) (schedulerUid : Option Nat) :
    SlurmProgram ρ (List ActiveSlurmJob) := do
  let ids ← queuedJobIds schedulerJobId
  matchingJobs schedulerJobId.isSome submitTime schedulerUid ids

/-- `_matching_live_jobs`. -/
def matchingLiveJobs (schedulerJobId submitTime : Option String) (schedulerUid : Option Nat) :
    SlurmProgram ρ (List ActiveSlurmJob) := do
  let jobs ← matchingSchedulerJobs schedulerJobId submitTime schedulerUid
  raiseUnless (∀ j ∈ jobs,
    j.state ∈ QUEUED_SLURM_STATES ++ ACTIVE_SLURM_STATES ∨ j.state ∈ TERMINAL_SLURM_STATES)
  return jobs.filter fun j => j.state ∈ QUEUED_SLURM_STATES ++ ACTIVE_SLURM_STATES

/-- `_bind_accepted_job`. -/
def bindAcceptedJob (id : String) (cluster : Option String) :
    SlurmProgram ρ (SlurmJobRecord ρ) := do
  let jobs ← matchingSchedulerJobs (some id) none none
  match jobs with
  | [job] => do
    raiseUnless (job.state = "PENDING" ∧ job.reason = "JobHeldUser")
    writeRecord (.submitted id cluster job.submitTime job.userId none)
  | _ => raise

/-- `_release_if_held`. -/
def releaseIfHeld (id submitTime : String) (schedulerUid : Nat) : SlurmProgram ρ Unit := do
  let jobs ← matchingSchedulerJobs (some id) (some submitTime) (some schedulerUid)
  match jobs with
  | [] => return ()
  | [job] => if job.Held then attempt (.release id) else return ()
  | _ => raise

/-- The last branch of `_recover_submission`. -/
def releaseRecord (r : SlurmJobRecord ρ) : SlurmProgram ρ (SlurmJobRecord ρ) :=
  match r with
  | .submitted id _ submitTime uid _ => do
    releaseIfHeld id submitTime uid
    return r
  | _ => return r

/-- `_recover_submission`. -/
def recoverSubmission (r : SlurmJobRecord ρ) : SlurmProgram ρ (SlurmJobRecord ρ) :=
  match r with
  | .prepared => do
    let jobs ← matchingSchedulerJobs none none none
    match jobs with
    | [job] => do
      let _ ← writeRecord (.accepted job.schedulerJobId none)
      let submitted ← bindAcceptedJob job.schedulerJobId none
      releaseRecord submitted
    | _ => raise
  | .accepted id cluster => do
    let submitted ← bindAcceptedJob id cluster
    releaseRecord submitted
  | r => releaseRecord r

/-- `_launch_locked`. -/
def launch : SlurmProgram ρ Unit := do
  attempt .check
  let present ← perform .exists
  if present = true then do
    let r ← loadRecord
    attempt .check
    match r with
    | .submitted id cluster submitTime uid result => do
      let _ ← recoverSubmission (.submitted id cluster submitTime uid result)
      return ()
    | _ => raise
  else do
    -- the slots of the environment
    attempt .check
    attempt .makeDirectory
    attempt .makeControl
    attempt (.createRecord .prepared)
    attempt .writeLaunchFiles
    -- `_revalidate_launch_inputs`
    attempt .check
    let answer ← perform .sbatch
    let (id, cluster) ← orFail answer
    let _ ← writeRecord (.accepted id cluster)
    let submitted ← bindAcceptedJob id cluster
    let _ ← releaseRecord submitted
    return ()

/-- `_owned_record`. -/
def ownedRecord : SlurmProgram ρ (SlurmJobRecord ρ) := do
  let r ← loadRecord
  attempt .check
  return r

/-- `_inspect_locked`: whether the job has ended, and what there is to collect. -/
def inspect : SlurmProgram ρ (Option ρ) := do
  let r ← ownedRecord
  let r ← recoverSubmission r
  match r with
  | .abandoned => return none
  | _ => do
    let answer ← perform .observe
    orFail answer

/-- `cancel`; the state is asked for `polls` times at most. -/
def awaitEnd : Nat → SlurmProgram ρ Unit
  | 0 => raise
  | polls + 1 => do
    let answer ← perform .observe
    let ended ← orFail answer
    match ended with
    | some _ => return ()
    | none => awaitEnd polls

def cancel (polls : Nat) : SlurmProgram ρ Unit := do
  let r ← ownedRecord
  let r ← recoverSubmission r
  match r with
  | .submitted id _ _ _ _ => do
    let answer ← perform .observe
    let ended ← orFail answer
    match ended with
    | some _ => return ()
    | none => do
      attempt (.scancel id)
      awaitEnd polls
  | _ => return ()

def collect : SlurmProgram ρ Unit := do
  let r ← ownedRecord
  match r with
  | .submitted _ _ _ _ (some _) => return ()
  | _ => do
    let ended ← inspect
    let r ← ownedRecord
    let result ← orFail ended
    match r with
    | .submitted id cluster submitTime uid _ => do
      let _ ← writeRecord (.submitted id cluster submitTime uid (some result))
      return ()
    | _ => raise

/-- The scheduler's identity of a record. -/
def identity : Option (SlurmJobRecord ρ) → Option String × Option String × Option Nat
  | some (.accepted id _) => (some id, none, none)
  | some (.submitted id _ submitTime uid _) => (some id, some submitTime, some uid)
  | _ => (none, none, none)

def cancelAll : List ActiveSlurmJob → SlurmProgram ρ Unit
  | [] => return ()
  | job :: jobs => do
    attempt (.scancel job.schedulerJobId)
    cancelAll jobs

/-- The loop of `_abandon_locked`; it asks for the jobs `polls` times at most. -/
def quiesce (r : Option (SlurmJobRecord ρ)) (invokingUid : Nat) : Nat → SlurmProgram ρ Unit
  | 0 => raise
  | polls + 1 => do
    let (id, submitTime, uid) := identity r
    let active ← matchingLiveJobs id submitTime (if r.isNone then some invokingUid else uid)
    cancelAll active
    if active = [] then return () else quiesce r invokingUid polls

/-- `_remove_incomplete_job_directory`. -/
def removeIncompleteJobDirectory : SlurmProgram ρ Unit := do
  let present ← perform .ask
  if present = true then do
    -- nothing but the control directory is there
    attempt .check
    attempt .removeControl
    attempt .removeDirectory
  else return ()

/-- `_abandon_locked`. -/
def abandon (invokingUid polls : Nat) : SlurmProgram ρ Unit := do
  let present ← perform .exists
  if present = true then do
    let r ← loadRecord
    match r with
    | .abandoned => return ()
    | r => do
      quiesce (some r) invokingUid polls
      let _ ← writeRecord .abandoned
      return ()
  else do
    quiesce none invokingUid polls
    removeIncompleteJobDirectory

/-- What `_require_concurrency_slot` of another launch does with the record. -/
def countSlot : SlurmProgram ρ Unit := do
  let present ← perform .exists
  if present = true then do
    let r ← loadRecord
    match r with
    | .submitted id cluster submitTime uid none => do
      let _ ← recoverSubmission (.submitted id cluster submitTime uid none)
      let answer ← perform .observe
      let _ ← orFail answer
      return ()
    | _ => return ()
  else return ()

end SlurmProgram

/-- The executors on one state root, as they act on one invocation. -/
def slurmSetting (ρ : Type) : Setting (SlurmWorld ρ) (SlurmCall ρ) SlurmCall.Answer where
  exec := SlurmCall.exec
  lingers := SlurmCall.lingers
  inherits := SlurmCall.inherits
  env := SlurmWorld.SchedulerGoesOn
  locked p :=
    p = SlurmProgram.launch ∨
    p = (do let _ ← SlurmProgram.inspect; return ()) ∨
    (∃ polls, p = SlurmProgram.cancel polls) ∨
    p = SlurmProgram.collect ∨
    ∃ invokingUid polls, p = SlurmProgram.abandon invokingUid polls
  free p := p = SlurmProgram.countSlot

end EdaGym
