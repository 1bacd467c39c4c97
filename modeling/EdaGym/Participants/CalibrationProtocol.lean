import Mathlib.Logic.Function.Basic
import Mathlib.Logic.Relation
import Mathlib.Tactic.Lemma

/-!
# Calibration command channels

The channels of one run share a lifecycle lock, a durable owner record and the containers of their
exchanges. A channel takes the lock when it is constructed and gives it back when it is closed;
every exchange writes the owner record before it starts a launcher, and again once it knows the
launcher's process. Threads interleave at any of these steps, and a process can crash between any
two.
-/

namespace EdaGym

/-! ### Containers -/

inductive ContainerState where
  | absent
  | running
  | gone
deriving DecidableEq

/-- What became of a container name: whether the launcher process is alive, and the container, which
the launcher may create at any time. -/
structure ContainerLaunch where
  named : Bool := false
  launcher : Bool := false
  container : ContainerState := .absent
  starter : Option Nat := none

namespace ContainerLaunch

/-- The launcher is still to create its container. -/
def Pending (l : ContainerLaunch) : Prop := l.launcher = true ∧ l.container = .absent

/-- The container runs, or it will. -/
def Live (l : ContainerLaunch) : Prop := l.container = .running ∨ l.Pending

instance (l : ContainerLaunch) : Decidable l.Pending := inferInstanceAs (Decidable (_ ∧ _))

instance (l : ContainerLaunch) : Decidable l.Live := inferInstanceAs (Decidable (_ ∨ _))

/-- `podman kill` and `podman rm --force --ignore`: nothing happens to a container that is not
there yet. -/
def stop (l : ContainerLaunch) : ContainerLaunch :=
  { l with container := if l.container = .running then .gone else l.container }

/-- The launcher's process group is killed, or waited for. -/
def terminate (l : ContainerLaunch) : ContainerLaunch := { l with launcher := false }

end ContainerLaunch

/-- `_ActiveContainerOwner`; `launched` says that the record has the launcher's process. -/
structure ActiveContainerOwner where
  containerName : Nat
  launched : Bool
deriving DecidableEq

/-! ### Channels -/

/-- Who runs `_recover_owned_container`. -/
inductive RecoveryCaller where
  | construct
  | exchange
  | close
deriving DecidableEq

/-- The steps of `_recover_owned_container`. -/
inductive OwnerRecovery where
  | read
  | terminate (owner : ActiveContainerOwner)
  | remove (owner : ActiveContainerOwner)
  | clear (owner : ActiveContainerOwner)
  | done
deriving DecidableEq

/-- Where the thread that holds the exchange lock of a channel stands; a constructor counts as
holding it. -/
inductive ChannelStage where
  | idle
  | recover (recovery : OwnerRecovery) (caller : RecoveryCaller)
  | enter (name : Nat)
  | refused (name : Nat)
  | start (name : Nat)
  | launched (name : Nat)
  | failed (name : Nat)
  | failedClear (name : Nat)
  | recorded (name : Nat)
  | waiting (name : Nat)
  | quiesced (name : Nat)
  | ending (name : Nat)
  | cleared (name : Nat)
  | finishing (name : Nat)
deriving DecidableEq

/-- The stages inside `with self._state_lock`. -/
def ChannelStage.holdsStateLock : ChannelStage → Bool
  | refused _ | start _ | launched _ | failed _ | failedClear _ | recorded _ => true
  | _ => false

/-- Where a thread in `close` stands before it has the exchange lock. -/
inductive CloseStage where
  | none
  | kill (name : Nat)
  | terminate (name : Nat)
  | lock
deriving DecidableEq

inductive ChannelPhase where
  | constructing
  | opened
  | released
deriving DecidableEq

structure CalibrationCommandChannel where
  process : Nat
  phase : ChannelPhase := .constructing
  closed : Bool := false
  active : Option Nat := none
  stage : ChannelStage := .recover .read .construct
  closing : CloseStage := .none

/-- What the channels of one run share, and the channels themselves. -/
structure CalibrationRun where
  lock : Option Nat := none
  owner : Option ActiveContainerOwner := none
  launches : Nat → ContainerLaunch := fun _ => {}
  channels : Nat → Option CalibrationCommandChannel := fun _ => none

namespace CalibrationRun

def set (r : CalibrationRun) (c : Nat) (ch : CalibrationCommandChannel) : CalibrationRun :=
  { r with channels := Function.update r.channels c (some ch) }

def launch (r : CalibrationRun) (name : Nat) (l : ContainerLaunch) : CalibrationRun :=
  { r with launches := Function.update r.launches name l }

/-- A process ends: its channels are gone, and so is the lock that one of them held. Launchers run
in sessions of their own. -/
def crash (r : CalibrationRun) (process : Nat) : CalibrationRun :=
  { r with
    lock := r.lock.filter fun c => ¬ (r.channels c).any fun ch => ch.process = process
    channels := fun c => (r.channels c).filter fun ch => ch.process ≠ process }

end CalibrationRun

/-! ### Steps -/

/-- What a step is seen to do: it touches a container, a constructor returns, an exchange takes the
exchange lock, or a process crashes. -/
inductive CalibrationAct where
  | internal
  | touch (channel name : Nat)
  | constructed (channel : Nat)
  | begin (channel : Nat)
  | crash (process : Nat)
deriving DecidableEq

/-- The steps of the containers on their own. -/
inductive ContainerStep : ContainerLaunch → ContainerLaunch → Prop
  | create (l : ContainerLaunch) (h : l.Pending) : ContainerStep l { l with container := .running }
  | exit (l : ContainerLaunch) : ContainerStep l l.stop
  | launcherEnds (l : ContainerLaunch) : ContainerStep l l.terminate

/-- `close`, until it waits for the exchange lock. -/
inductive ClosingStep (c : Nat) (r : CalibrationRun) (ch : CalibrationCommandChannel) :
    CalibrationAct → CalibrationRun → Prop
  | markIdle (hopen : ch.phase = .opened) (hclosed : ch.closed = false)
      (hstate : ch.stage.holdsStateLock = false) (hactive : ch.active = none) :
      ClosingStep c r ch .internal (r.set c { ch with closed := true, closing := .lock })
  | markActive (name : Nat) (hopen : ch.phase = .opened) (hclosed : ch.closed = false)
      (hstate : ch.stage.holdsStateLock = false) (hactive : ch.active = some name) :
      ClosingStep c r ch .internal (r.set c { ch with closed := true, closing := .kill name })
  | kill (name : Nat) (h : ch.closing = .kill name) :
      ClosingStep c r ch (.touch c name)
        ((r.launch name (r.launches name).stop).set c { ch with closing := .terminate name })
  | terminate (name : Nat) (h : ch.closing = .terminate name) :
      ClosingStep c r ch (.touch c name)
        ((r.launch name (r.launches name).terminate).set c { ch with closing := .lock })

/-- The thread that holds the exchange lock of a channel, or that takes it. -/
inductive ExchangeStep (c : Nat) (r : CalibrationRun) (ch : CalibrationCommandChannel) :
    CalibrationAct → CalibrationRun → Prop
  -- `_recover_owned_container`
  | readNone (caller : RecoveryCaller) (h : ch.stage = .recover .read caller)
      (howner : r.owner = none) :
      ExchangeStep c r ch .internal (r.set c { ch with stage := .recover .done caller })
  | readOwner (caller : RecoveryCaller) (owner : ActiveContainerOwner)
      (h : ch.stage = .recover .read caller) (howner : r.owner = some owner) :
      ExchangeStep c r ch .internal
        (r.set c { ch with stage := .recover (.terminate owner) caller })
  | terminateOwned (caller : RecoveryCaller) (owner : ActiveContainerOwner)
      (h : ch.stage = .recover (.terminate owner) caller) (hlaunched : owner.launched = true) :
      ExchangeStep c r ch (.touch c owner.containerName)
        ((r.launch owner.containerName (r.launches owner.containerName).terminate).set c
          { ch with stage := .recover (.remove owner) caller })
  | terminateUnknown (caller : RecoveryCaller) (owner : ActiveContainerOwner)
      (h : ch.stage = .recover (.terminate owner) caller) (hlaunched : owner.launched = false) :
      ExchangeStep c r ch .internal (r.set c { ch with stage := .recover (.remove owner) caller })
  | removeOwned (caller : RecoveryCaller) (owner : ActiveContainerOwner)
      (h : ch.stage = .recover (.remove owner) caller) :
      ExchangeStep c r ch (.touch c owner.containerName)
        ((r.launch owner.containerName (r.launches owner.containerName).stop).set c
          { ch with stage := .recover (.clear owner) caller })
  | clearOwned (caller : RecoveryCaller) (owner : ActiveContainerOwner)
      (h : ch.stage = .recover (.clear owner) caller) :
      ExchangeStep c r ch .internal
        ({ r with owner := none }.set c { ch with stage := .recover .done caller })
  -- `__init__` and `close` return
  | constructed (h : ch.stage = .recover .done .construct) :
      ExchangeStep c r ch (.constructed c) (r.set c { ch with phase := .opened, stage := .idle })
  | closeLock (h : ch.closing = .lock) (hidle : ch.stage = .idle) :
      ExchangeStep c r ch .internal
        (r.set c { ch with closing := .none, stage := .recover .read .close })
  | closeReleases (recovery : OwnerRecovery) (h : ch.stage = .recover recovery .close) :
      ExchangeStep c r ch .internal
        ({ r with lock := none }.set c { ch with phase := .released, stage := .idle })
  -- `_exchange`
  | begin (hphase : ch.phase ≠ .constructing) (h : ch.stage = .idle) :
      ExchangeStep c r ch (.begin c) (r.set c { ch with stage := .recover .read .exchange })
  | reject (recovery : OwnerRecovery) (h : ch.stage = .recover recovery .exchange) :
      ExchangeStep c r ch .internal (r.set c { ch with stage := .idle })
  | write (name : Nat) (h : ch.stage = .recover .done .exchange) (howner : r.owner = none)
      (hfresh : (r.launches name).named = false) :
      ExchangeStep c r ch .internal
        (({ r with owner := some ⟨name, false⟩ }.launch name
          { r.launches name with named := true }).set c { ch with stage := .enter name })
  | enter (name : Nat) (h : ch.stage = .enter name) (hclosed : ch.closed = false) :
      ExchangeStep c r ch .internal (r.set c { ch with stage := .start name })
  | refuse (name : Nat) (h : ch.stage = .enter name) (hclosed : ch.closed = true) :
      ExchangeStep c r ch .internal (r.set c { ch with stage := .refused name })
  | clearRefused (name : Nat) (h : ch.stage = .refused name) :
      ExchangeStep c r ch .internal ({ r with owner := none }.set c { ch with stage := .idle })
  | launch (name : Nat) (h : ch.stage = .start name) :
      ExchangeStep c r ch .internal
        ((r.launch name { r.launches name with launcher := true, starter := some c }).set c
          { ch with stage := .launched name })
  | launchFails (name : Nat) (h : ch.stage = .start name) :
      ExchangeStep c r ch .internal (r.set c { ch with stage := .failed name })
  | record (name : Nat) (h : ch.stage = .launched name) (howner : r.owner ≠ none) :
      ExchangeStep c r ch .internal
        ({ r with owner := some ⟨name, true⟩ }.set c { ch with stage := .recorded name })
  | recordFails (name : Nat) (h : ch.stage = .launched name) :
      ExchangeStep c r ch (.touch c name)
        ((r.launch name (r.launches name).terminate).set c { ch with stage := .failed name })
  | removeFailed (name : Nat) (h : ch.stage = .failed name) :
      ExchangeStep c r ch (.touch c name)
        ((r.launch name (r.launches name).stop).set c { ch with stage := .failedClear name })
  | clearFailed (name : Nat) (h : ch.stage = .failedClear name) :
      ExchangeStep c r ch .internal ({ r with owner := none }.set c { ch with stage := .idle })
  | activate (name : Nat) (h : ch.stage = .recorded name) :
      ExchangeStep c r ch .internal
        (r.set c { ch with active := some name, stage := .waiting name })
  | ended (name : Nat) (h : ch.stage = .waiting name)
      (hlauncher : (r.launches name).launcher = false) :
      ExchangeStep c r ch .internal (r.set c { ch with stage := .ending name })
  | quiesceKill (name : Nat) (h : ch.stage = .waiting name) :
      ExchangeStep c r ch (.touch c name)
        ((r.launch name (r.launches name).stop).set c { ch with stage := .quiesced name })
  | quiesceTerminate (name : Nat) (h : ch.stage = .quiesced name) :
      ExchangeStep c r ch (.touch c name)
        ((r.launch name (r.launches name).terminate).set c { ch with stage := .ending name })
  | remove (name : Nat) (h : ch.stage = .ending name) :
      ExchangeStep c r ch (.touch c name)
        ((r.launch name (r.launches name).stop).set c { ch with stage := .cleared name })
  | clear (name : Nat) (h : ch.stage = .cleared name) :
      ExchangeStep c r ch .internal
        ({ r with owner := none }.set c { ch with stage := .finishing name })
  | finish (name : Nat) (h : ch.stage = .finishing name) :
      ExchangeStep c r ch .internal
        (r.set c { ch with
          active := if ch.active = some name then none else ch.active
          stage := .idle })

/-- The steps of a run: of a container, of a channel, of a constructor that takes the lock or fails,
or of a process that crashes. -/
inductive CalibrationStep (r : CalibrationRun) : CalibrationAct → CalibrationRun → Prop
  | container (name : Nat) {l : ContainerLaunch} (h : ContainerStep (r.launches name) l) :
      CalibrationStep r .internal (r.launch name l)
  | closing (c : Nat) {ch : CalibrationCommandChannel} {act : CalibrationAct} {r' : CalibrationRun}
      (hc : r.channels c = some ch) (h : ClosingStep c r ch act r') : CalibrationStep r act r'
  | exchange (c : Nat) {ch : CalibrationCommandChannel} {act : CalibrationAct} {r' : CalibrationRun}
      (hc : r.channels c = some ch) (h : ExchangeStep c r ch act r') : CalibrationStep r act r'
  | construct (c process : Nat) (hc : r.channels c = none) (hlock : r.lock = none) :
      CalibrationStep r .internal ({ r with lock := some c }.set c { process := process })
  | abandon (c : Nat) {ch : CalibrationCommandChannel} (recovery : OwnerRecovery)
      (hc : r.channels c = some ch) (h : ch.stage = .recover recovery .construct) :
      CalibrationStep r .internal
        { r with lock := none, channels := Function.update r.channels c none }
  | crash (process : Nat) : CalibrationStep r (.crash process) (r.crash process)

/-- A process does not crash between the launch and the record of its launcher, and no exchange
takes the exchange lock of a channel that has given back the lifecycle lock. -/
def CalibrationRun.Permits (r : CalibrationRun) : CalibrationAct → Prop
  | .begin c => r.lock = some c
  | .crash process => ∀ c ch, r.channels c = some ch → ch.process = process →
      ∀ name, ch.stage ≠ .launched name
  | _ => True

/-- The states that steps without either of the two reach. -/
def CalibrationReachable : CalibrationRun → Prop :=
  Relation.ReflTransGen (fun r r' => ∃ act, CalibrationStep r act r' ∧ r.Permits act) {}

end EdaGym
