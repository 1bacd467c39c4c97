import EdaGym.Drivers.Qualification
import EdaGym.Executors.Licenses
import EdaGym.Lib.TimedProgram
import Mathlib.Logic.Relation

/-!
# Qualification under a lease

A broker authorizes one workload of a commercial tool under one lease, for as long as the lease
lasts. The authorization is consumed only when the rest of the lease covers the workload: one
version probe, the commands of both roles, and a second. The resolution of the tool, however, asks
for the module first, and may probe every candidate twice.
-/

namespace EdaGym

open TimedProgram

def VERSION_PROBE_TIMEOUT_SECONDS : Nat := 20
def LEASE_COMPLETION_GUARD_SECONDS : Nat := 1
/-- The time-out of the version probe in a site container. -/
def PROCESS_TIMEOUT_SECONDS : Nat := 30
/-- The time-out of an inspection of the container's image. -/
def IMAGE_INSPECT_TIMEOUT_SECONDS : Nat := 20

/-! ### What is authorized -/

inductive HostSupportMode
  | default | vendorUnsupported | vendorUnsupportedOverride
deriving DecidableEq, Repr

structure CommercialDefinition extends BackendDefinition where
  capabilities : List Capability
  executableCandidates : List String
  workloadUseRequiresEulaAcceptance : Bool := false
  hostSupportMode : HostSupportMode := .default

structure MetadataProbe extends BackendProbe where
  hostSupportMode : HostSupportMode

structure CommercialLicenseBinding where
  licenseBindingId : Identifier
  providerId : Identifier
  providerDigest : Digest
  featureClass : Identifier
  leaseTtlSeconds : Nat

structure AuthorizationReceipt extends CommercialQualificationReceipt where
  authorizationId : String
  runId : Identifier
  metadataProbeDigest : Digest
  licenseBindingId : Identifier
  licenseBindingDigest : Digest
  providerId : Identifier
  providerDigest : Digest
  featureClass : Identifier
  maxExecutionSeconds : Int
  authorizedAt : Datetime
  expiresAt : Datetime

/-- The canonical digests that are compared. -/
structure LicensingDigests where
  probe : MetadataProbe → Digest
  fixture : QualificationFixture → Digest
  binding : CommercialLicenseBinding → Digest

/-- The probe describes the definition, which is of a commercial tool. -/
def BindingMatches (definition : CommercialDefinition) (probe : MetadataProbe)
    (deploymentToolId : Identifier) : Prop :=
  definition.vendor ≠ .openSource ∧ probe.state = .detected ∧ probe.toolId = definition.toolId ∧
    probe.vendor = definition.vendor ∧ probe.capabilities = definition.capabilities ∧
    probe.hostSupportMode = definition.hostSupportMode ∧
    probe.driverDigest = definition.driverDigest ∧ deploymentToolId = definition.toolId

instance (definition : CommercialDefinition) (probe : MetadataProbe)
    (deploymentToolId : Identifier) :
    Decidable (BindingMatches definition probe deploymentToolId) :=
  inferInstanceAs (Decidable (_ ∧ _))

/-! ### Authorization -/

/-- What the surroundings say while a workload is authorized. -/
structure AuthorizeAnswers where
  /-- The driver digest of the catalog's definition. -/
  canonicalDriverDigest : Option Digest
  /-- The digest of the catalog's fixture. -/
  canonicalFixtureDigest : Option Digest
  deploymentRevalidates : Bool
  /-- The probe of the metadata resolves an installation. -/
  probedInstallation : Bool
  currentProbeDigest : Digest
  runIdValid : Bool
  /-- The clock before the lease is acquired. -/
  acquiringAt : Datetime
  /-- The lease, or none where the provider raises. -/
  lease : Option LicenseLease
  /-- The clock after the lease is acquired. -/
  authorizedAt : Datetime
  authorizationId : String
  /-- Something raises while the receipt is made. -/
  interrupted : Bool := false

structure LicenseBroker where
  binding : CommercialLicenseBinding
  deploymentToolId : Identifier

/-- How often leases were acquired and released. -/
structure LeaseDesk where
  acquired : Nat := 0
  released : Nat := 0

/-- A release that raises has been called all the same. -/
def LeaseDesk.release (desk : LeaseDesk) : LeaseDesk := { desk with released := desk.released + 1 }

namespace LicenseBroker

variable (digests : LicensingDigests) (broker : LicenseBroker) (definition : CommercialDefinition)
  (probe : MetadataProbe) (fixture : QualificationFixture) (maxExecutionSeconds : Int)
  (answers : AuthorizeAnswers)

def requiredSeconds : Int :=
  maxExecutionSeconds + VERSION_PROBE_TIMEOUT_SECONDS + LEASE_COMPLETION_GUARD_SECONDS

/-- What is checked before a lease is acquired. -/
def checkTarget : Except String Unit := do
  raiseIf (definition.workloadUseRequiresEulaAcceptance = true)
    "commercial workload use requires explicit EULA acceptance"
  raiseIf (answers.canonicalDriverDigest ≠ some definition.driverDigest ∨
      answers.canonicalFixtureDigest ≠ some (digests.fixture fixture) ∨
      fixture.logProjection.isNone = true ∨ fixture.rejectionInputs = [])
    "commercial authorization requires a canonical backend fixture"
  raiseIf (¬ BindingMatches definition probe broker.deploymentToolId ∨
      answers.deploymentRevalidates = false ∨ fixture.capability ∉ definition.capabilities)
    "commercial authorization target does not match detected metadata"
  raiseIf (answers.probedInstallation = true ∨ answers.currentProbeDigest ≠ digests.probe probe)
    "commercial deployment metadata changed before authorization"
  raiseIf (maxExecutionSeconds ≤ 0 ∨ 3600 < maxExecutionSeconds)
    "commercial execution time must be between one second and one hour"
  raiseIf ((broker.binding.leaseTtlSeconds : Int) < requiredSeconds maxExecutionSeconds)
    "commercial execution and resolution time exceed the license lease TTL"
  raiseIf (answers.runIdValid = false) "run identifier is not an identifier"

def leaseDeadline : Datetime := answers.acquiringAt + seconds broker.binding.leaseTtlSeconds

def receipt (runId : Identifier) : Except String AuthorizationReceipt := do
  raiseIf (broker.leaseDeadline answers <
      answers.authorizedAt + seconds (requiredSeconds maxExecutionSeconds))
    "license provider returned an insufficient lease lifetime"
  raiseIf (answers.interrupted = true) "interrupted"
  pure { authorizationId := answers.authorizationId, runId, toolId := definition.toolId
         vendor := definition.vendor, capability := fixture.capability
         driverDigest := definition.driverDigest, metadataProbeDigest := digests.probe probe
         fixtureDigest := digests.fixture fixture
         licenseBindingId := broker.binding.licenseBindingId
         licenseBindingDigest := digests.binding broker.binding
         providerId := broker.binding.providerId, providerDigest := broker.binding.providerDigest
         featureClass := broker.binding.featureClass, maxExecutionSeconds
         authorizedAt := answers.authorizedAt, expiresAt := broker.leaseDeadline answers }

/-- The lease is not the one that was asked for. -/
def Mismatched (lease : LicenseLease) : Prop :=
  lease.state answers.authorizedAt ≠ .active ∨ lease.providerId ≠ broker.binding.providerId ∨
    lease.featureClass ≠ broker.binding.featureClass

instance (lease : LicenseLease) : Decidable (broker.Mismatched answers lease) :=
  inferInstanceAs (Decidable (_ ∨ _))

def authorize (runId : Identifier) :
    Except String (AuthorizationReceipt × LicenseLease) × LeaseDesk :=
  match broker.checkTarget digests definition probe fixture maxExecutionSeconds answers with
  | .error e => (.error e, {})
  | .ok _ =>
    match answers.lease with
    | none => (.error "license feature is unavailable", {})
    | some lease =>
      let desk : LeaseDesk := { acquired := 1 }
      if broker.Mismatched answers lease then
        (.error "license provider returned a mismatched lease", desk.release)
      else
        match broker.receipt digests definition probe fixture maxExecutionSeconds answers runId with
        | .ok receipt => (.ok (receipt, lease), desk)
        | .error e => (.error e, desk.release)

/-- A lease that was acquired is handed on, or released once. -/
lemma authorize_released (runId : Identifier) :
    match broker.authorize digests definition probe fixture maxExecutionSeconds answers runId with
    | (.ok _, desk) => desk = { acquired := 1, released := 0 }
    | (.error _, desk) => desk.released = desk.acquired ∧ desk.acquired ≤ 1 := by
  rw [authorize]
  cases broker.checkTarget digests definition probe fixture maxExecutionSeconds answers with
  | error e => exact ⟨rfl, Nat.zero_le 1⟩
  | ok _ =>
    cases answers.lease with
    | none => exact ⟨rfl, Nat.zero_le 1⟩
    | some lease =>
      dsimp only
      by_cases hmismatch : broker.Mismatched answers lease
      · rw [if_pos hmismatch]
        exact ⟨rfl, le_rfl⟩
      · rw [if_neg hmismatch]
        cases broker.receipt digests definition probe fixture maxExecutionSeconds answers runId with
        | ok receipt => rfl
        | error e => exact ⟨rfl, le_rfl⟩

end LicenseBroker

/-! ### The authorization -/

structure CommercialQualificationAuthorization where
  receipt : AuthorizationReceipt
  consumed : Bool := false
  closed : Bool := false

namespace CommercialQualificationAuthorization

/-- The time that an authorized workload may take, in seconds. -/
def workloadSeconds (fixture : QualificationFixture) (timeoutSeconds : Nat) : Nat :=
  timeoutSeconds * fixture.invocations.length * FixtureRole.all.length

/-- `leaseState` is the state of the lease at the time `now`. -/
def consume (digests : LicensingDigests) (a : CommercialQualificationAuthorization) (now : Datetime)
    (leaseState : LeaseState) (definition : CommercialDefinition) (probe : MetadataProbe)
    (fixture : QualificationFixture) (timeoutSeconds : Nat) :
    Except String CommercialQualificationAuthorization := do
  raiseIf (a.closed = true) "commercial qualification authorization is closed"
  raiseIf (a.consumed = true) "commercial qualification authorization was already consumed"
  raiseIf (a.receipt.toolId ≠ definition.toolId ∨ a.receipt.vendor ≠ definition.vendor ∨
      a.receipt.capability ≠ fixture.capability ∨
      a.receipt.driverDigest ≠ definition.driverDigest ∨
      a.receipt.metadataProbeDigest ≠ digests.probe probe ∨
      a.receipt.fixtureDigest ≠ digests.fixture fixture)
    "commercial qualification authorization binding does not match"
  raiseIf (a.receipt.maxExecutionSeconds < workloadSeconds fixture timeoutSeconds)
    "commercial workload exceeds its authorized execution time"
  raiseIf (a.receipt.expiresAt < now + seconds (VERSION_PROBE_TIMEOUT_SECONDS +
      workloadSeconds fixture timeoutSeconds + LEASE_COMPLETION_GUARD_SECONDS))
    "commercial qualification lease cannot cover the workload"
  raiseIf (leaseState ≠ .active) "commercial qualification license lease is not active"
  pure { a with consumed := true }

lemma consume_eq_ok {digests : LicensingDigests} {a a' : CommercialQualificationAuthorization}
    {now : Datetime} {leaseState : LeaseState} {definition : CommercialDefinition}
    {probe : MetadataProbe} {fixture : QualificationFixture} {timeoutSeconds : Nat}
    (h : a.consume digests now leaseState definition probe fixture timeoutSeconds = .ok a') :
    a.closed = false ∧ a.consumed = false ∧ now ≤ a.receipt.expiresAt ∧
      a' = { a with consumed := true } := by
  rw [consume, raiseIf_bind_eq_ok] at h
  obtain ⟨hclosed, h⟩ := h
  rw [raiseIf_bind_eq_ok] at h
  obtain ⟨hconsumed, h⟩ := h
  rw [raiseIf_bind_eq_ok] at h
  obtain ⟨-, h⟩ := h
  rw [raiseIf_bind_eq_ok] at h
  obtain ⟨-, h⟩ := h
  rw [raiseIf_bind_eq_ok] at h
  obtain ⟨hcovers, h⟩ := h
  rw [raiseIf_bind_eq_ok] at h
  obtain ⟨-, h⟩ := h
  refine ⟨by simpa using hclosed, by simpa using hconsumed, ?_, (Except.ok.inj h).symm⟩
  have hnonneg : 0 ≤ seconds (VERSION_PROBE_TIMEOUT_SECONDS +
      workloadSeconds fixture timeoutSeconds + LEASE_COMPLETION_GUARD_SECONDS) := by
    rw [seconds]
    positivity
  exact (le_add_of_nonneg_right hnonneg).trans (not_lt.mp hcovers)

end CommercialQualificationAuthorization

/-! ### The workload -/

/-- In microseconds. -/
def SECOND : Nat := 1000000

inductive QualificationProcess
  | moduleShow | versionProbe | siteVersionProbe | imageInspect
  | command (timeoutSeconds : Nat)
deriving DecidableEq

namespace QualificationProcess

def timeoutSeconds : QualificationProcess → Nat
  | moduleShow | versionProbe => VERSION_PROBE_TIMEOUT_SECONDS
  | siteVersionProbe => PROCESS_TIMEOUT_SECONDS
  | imageInspect => IMAGE_INSPECT_TIMEOUT_SECONDS
  | command timeoutSeconds => timeoutSeconds

def limit (p : QualificationProcess) : Nat := p.timeoutSeconds * SECOND

/-- The processes that run a licensed tool, or what it has made. -/
def licensed : QualificationProcess → Bool
  | versionProbe | siteVersionProbe | command _ => true
  | moduleShow | imageInspect => false

end QualificationProcess

abbrev QualificationProgram := TimedProgram QualificationProcess

def inspectExecutable (trustedPath : Bool) : QualificationProgram Bool := do
  if trustedPath then
    let trusted ← query
    if !trusted then return false
  let opened ← query
  if !opened then return false
  let inTime ← perform .versionProbe
  if !inTime then return false
  query -- the exit code, the output, the version identity and the digest

/-- The loop over the candidates of a tool that a module provides. -/
def resolveCandidates : List String → QualificationProgram Bool
  | [] => pure false
  | _ :: rest => do
    let found ← query
    if !found then resolveCandidates rest
    else
      let missingInterpreter ← query
      if missingInterpreter then resolveCandidates rest
      else
        let inspected ← inspectExecutable false
        if inspected then return true
        else
          let trusted ← query
          if !trusted then resolveCandidates rest
          else
            let inspected ← inspectExecutable true
            if !inspected then resolveCandidates rest
            else
              let sameDigest ← query
              if !sameDigest then resolveCandidates rest else return true

/-- `ResolvedExecutionClosure.revalidate`; a site container inspects its image. -/
def revalidateClosure (configuration : BackendDeploymentConfiguration) :
    QualificationProgram Bool :=
  do
  let filesValid ← query
  if !filesValid then return false
  match configuration with
  | .hostModule => return true
  | .siteContainer => perform .imageInspect

def resolveSiteContainer : QualificationProgram Bool := do
  -- `resolve_site_container_execution_closure`
  let configured ← query
  if !configured then return false
  let sameImage ← perform .imageInspect
  if !sameImage then return false
  let closed ← query
  if !closed then return false
  let attested ← revalidateClosure .siteContainer -- ends `site_container_execution_closure`
  if !attested then return false
  let configured ← query
  if !configured then return false
  let revalidated ← revalidateClosure .siteContainer
  if !revalidated then return false
  -- `inspect_site_container_tool`
  let configured ← query
  if !configured then return false
  let revalidated ← revalidateClosure .siteContainer
  if !revalidated then return false
  let inTime ← perform .siteVersionProbe
  if !inTime then return false
  let accepted ← query
  if !accepted then return false
  let revalidated ← revalidateClosure .siteContainer
  if !revalidated then return false
  let identified ← query
  if !identified then return false
  let revalidated ← revalidateClosure .siteContainer
  if !revalidated then return false
  query

/-- `resolve_authorized_commercial_backend`; false where it raises its own error. -/
def resolveAuthorizedCommercialBackend (configuration : BackendDeploymentConfiguration)
    (definition : CommercialDefinition) (probe : MetadataProbe) (deploymentToolId : Identifier) :
    QualificationProgram Bool := do
  if definition.workloadUseRequiresEulaAcceptance then return false
  if ¬ BindingMatches definition probe deploymentToolId then return false
  let revalidated ← query
  if !revalidated then return false
  let active ← query
  if !active then return false
  let shown ← perform .moduleShow
  if !shown then return false
  let unchanged ← query
  if !unchanged then return false
  let resolved ← match configuration with
    | .hostModule => resolveCandidates definition.executableCandidates
    | .siteContainer => resolveSiteContainer
  if !resolved then return false
  query

/-- One turn of the command loop; the answer says whether the loop goes on. -/
def timedCommand (configuration : BackendDeploymentConfiguration) (timeoutSeconds : Nat)
    (invocation : FixtureInvocation) : QualificationProgram Bool := do
  let closureValid ← revalidateClosure configuration
  let othersValid ← query
  if invocation.isTool && !(closureValid && othersValid) then return false
  let started ← query
  if !started then return false
  let inTime ← perform (.command timeoutSeconds)
  let closureValid ← if invocation.isTool then revalidateClosure configuration else return true
  let asExpected ← query
  return inTime && closureValid && asExpected

def timedCommands (configuration : BackendDeploymentConfiguration) (timeoutSeconds : Nat) :
    List FixtureInvocation → QualificationProgram Bool
  | [] => pure true
  | invocation :: invocations => do
    let goesOn ← timedCommand configuration timeoutSeconds invocation
    if goesOn then timedCommands configuration timeoutSeconds invocations else return false

/-- What `qualify_commercial_backend` does once the authorization is consumed. -/
def qualifyWorkload (configuration : BackendDeploymentConfiguration)
    (definition : CommercialDefinition) (probe : MetadataProbe) (deploymentToolId : Identifier)
    (fixture : QualificationFixture) (timeoutSeconds : Nat) : QualificationProgram Unit := do
  let resolved ←
    resolveAuthorizedCommercialBackend configuration definition probe deploymentToolId
  if !resolved then return ()
  let _ ← timedCommands configuration timeoutSeconds fixture.invocations -- the acceptance
  let _ ← timedCommands configuration timeoutSeconds fixture.invocations -- the rejection
  return ()

/-! ### How long a workload may take -/

/-- How long a revalidation of the execution closure may take. -/
def revalidationSeconds : BackendDeploymentConfiguration → Nat
  | .hostModule => 0
  | .siteContainer => IMAGE_INSPECT_TIMEOUT_SECONDS

/-- Until a command has ended. -/
def commandEnd (configuration : BackendDeploymentConfiguration) (timeoutSeconds : Nat) : Nat :=
  revalidationSeconds configuration + timeoutSeconds

def commandSeconds (configuration : BackendDeploymentConfiguration) (timeoutSeconds : Nat)
    (invocation : FixtureInvocation) : Nat :=
  commandEnd configuration timeoutSeconds +
    if invocation.isTool then revalidationSeconds configuration else 0

section Meets

open QualificationProcess

variable {configuration : BackendDeploymentConfiguration} {timeoutSeconds span : Nat}

lemma meets_timedCommand {invocation : FixtureInvocation} {f : Bool → QualificationProgram Unit}
    (hf : ∀ span, (f true).Meets limit licensed span → (f false).Meets limit licensed span) :
    (timedCommand configuration timeoutSeconds invocation >>= f).Meets limit licensed span ↔
      commandEnd configuration timeoutSeconds * SECOND < span ∧
        (f true).Meets limit licensed
          (span - commandSeconds configuration timeoutSeconds invocation * SECOND) := by
  -- what the rest may do after the longest run of the command, it may do after any
  have hrest (span' : Nat) (hle : span - commandSeconds configuration timeoutSeconds invocation *
        SECOND ≤ span') (h : (f true).Meets limit licensed
          (span - commandSeconds configuration timeoutSeconds invocation * SECOND)) :
      (f false).Meets limit licensed span' ∧ (f true).Meets limit licensed span' :=
    ⟨hf _ (h.mono hle), h.mono hle⟩
  cases configuration <;> cases htool : invocation.isTool
  all_goals
    simp only [htool, commandEnd, commandSeconds, revalidationSeconds] at hrest
    simp [timedCommand, revalidateClosure, htool, bind_assoc', limit, licensed,
      QualificationProcess.timeoutSeconds, commandEnd, commandSeconds, revalidationSeconds,
      Nat.sub_sub, Nat.add_mul] at hrest ⊢
  · exact fun _ h => (hrest _ (by omega) h).1
  · constructor
    · exact fun h => ⟨h.2.1, h.2.2.2⟩
    · exact fun h => ⟨(hrest _ (by omega) h.2).1, h.1, (hrest _ (by omega) h.2).1, h.2⟩
  · constructor
    · rintro ⟨-, -, hend, h⟩
      exact ⟨by omega, h⟩
    · rintro ⟨hend, h⟩
      have hall (span' : Nat) (hle) := hrest span' hle h
      exact ⟨⟨(hall _ (by omega)).1, by omega, (hall _ (by omega)).2⟩, (hall _ (by omega)).1,
        by omega, h⟩
  · constructor
    · rintro ⟨-, -, hend, -, -, -, h⟩
      exact ⟨by omega, h⟩
    · rintro ⟨hend, h⟩
      have hall (span' : Nat) (hle) := (hrest span' hle h).1
      exact ⟨hall _ (by omega), hall _ (by omega), by omega,
        ⟨hall _ (by omega), hall _ (by omega)⟩, hall _ (by omega), hall _ (by omega), h⟩

/-- All commands of a role, of which the last one counts until it has ended. -/
def commandsSeconds (configuration : BackendDeploymentConfiguration) (timeoutSeconds : Nat)
    (invocations : List FixtureInvocation) : Nat :=
  (invocations.map (commandSeconds configuration timeoutSeconds)).sum

def commandsEnd (configuration : BackendDeploymentConfiguration) (timeoutSeconds : Nat)
    (invocations : List FixtureInvocation) : Nat :=
  commandsSeconds configuration timeoutSeconds invocations.dropLast +
    commandEnd configuration timeoutSeconds

lemma meets_timedCommands {invocations : List FixtureInvocation} (hne : invocations ≠ [])
    {p : QualificationProgram Unit} :
    (timedCommands configuration timeoutSeconds invocations >>= fun _ => p).Meets
        limit licensed span ↔
      commandsEnd configuration timeoutSeconds invocations * SECOND < span ∧
        p.Meets limit licensed
          (span - commandsSeconds configuration timeoutSeconds invocations * SECOND) := by
  induction invocations generalizing span with
  | nil => exact absurd rfl hne
  | cons invocation rest ih =>
    rw [timedCommands, bind_assoc', meets_timedCommand]
    · cases rest with
      | nil =>
        simp [timedCommands, commandsEnd, commandsSeconds]
      | cons next rest =>
        rw [if_pos rfl, ih (by simp)]
        have hspan : commandsSeconds configuration timeoutSeconds (invocation :: next :: rest) =
            commandSeconds configuration timeoutSeconds invocation +
              commandsSeconds configuration timeoutSeconds (next :: rest) := rfl
        have hend : commandsEnd configuration timeoutSeconds (invocation :: next :: rest) =
            commandSeconds configuration timeoutSeconds invocation +
              commandsEnd configuration timeoutSeconds (next :: rest) := by
          simp [commandsEnd, commandsSeconds, Nat.add_assoc]
        have hfirst : commandEnd configuration timeoutSeconds ≤
            commandSeconds configuration timeoutSeconds invocation := Nat.le_add_right _ _
        have hfirst' := Nat.mul_le_mul_right SECOND hfirst
        rw [hspan, hend, Nat.sub_sub, Nat.add_mul, Nat.add_mul]
        constructor
        · rintro ⟨-, h, hp⟩
          exact ⟨by omega, hp⟩
        · rintro ⟨h, hp⟩
          exact ⟨by omega, by omega, hp⟩
    · intro span' h
      rw [if_pos rfl] at h
      rw [if_neg (by simp)]
      cases rest with
      | nil => exact h
      | cons next rest => exact ((ih (by simp)).mp h).2.mono (Nat.sub_le _ _)

lemma meets_inspectExecutable {trustedPath : Bool} {f : Bool → QualificationProgram Unit} :
    (inspectExecutable trustedPath >>= f).Meets limit licensed span ↔
      VERSION_PROBE_TIMEOUT_SECONDS * SECOND < span ∧
        (f false).Meets limit licensed (span - VERSION_PROBE_TIMEOUT_SECONDS * SECOND) ∧
        (f true).Meets limit licensed (span - VERSION_PROBE_TIMEOUT_SECONDS * SECOND) := by
  have hrest (h : (f false).Meets limit licensed (span - VERSION_PROBE_TIMEOUT_SECONDS * SECOND)) :
      (f false).Meets limit licensed span := h.mono (Nat.sub_le _ _)
  cases trustedPath
  all_goals
    simp [inspectExecutable, limit, licensed, QualificationProcess.timeoutSeconds]
    exact fun _ h _ => hrest h

/-- The loop over the candidates, before what follows when one of them is resolved. -/
lemma meets_resolveCandidates {candidates : List String} {q : Bool → QualificationProgram Unit}
    (hfalse : ∀ span, (q false).Meets limit licensed span) :
    (resolveCandidates candidates >>= q).Meets limit licensed span ↔
      (candidates ≠ [] →
        2 * VERSION_PROBE_TIMEOUT_SECONDS * candidates.length * SECOND < span ∧
          (q true).Meets limit licensed
            (span - 2 * VERSION_PROBE_TIMEOUT_SECONDS * candidates.length * SECOND)) := by
  induction candidates generalizing span with
  | nil => simp [resolveCandidates, hfalse]
  | cons candidate rest ih =>
    have hspan : 2 * VERSION_PROBE_TIMEOUT_SECONDS * (rest.length + 1) * SECOND =
        VERSION_PROBE_TIMEOUT_SECONDS * SECOND + VERSION_PROBE_TIMEOUT_SECONDS * SECOND +
          2 * VERSION_PROBE_TIMEOUT_SECONDS * rest.length * SECOND := by ring
    simp only [resolveCandidates, query_bind, ask_bind, meets_ask, bind_assoc',
      meets_inspectExecutable, ih, hspan, ne_eq, reduceCtorEq, not_false_iff, forall_const,
      List.length_cons, Bool.not_true, Bool.not_false, Bool.false_eq_true, if_true, if_false,
      pure_bind', Nat.sub_sub]
    have hnone (h : rest = []) : 2 * VERSION_PROBE_TIMEOUT_SECONDS * rest.length * SECOND = 0 := by
      simp [h]
    generalize 2 * VERSION_PROBE_TIMEOUT_SECONDS * rest.length * SECOND = others at hnone ⊢
    generalize VERSION_PROBE_TIMEOUT_SECONDS * SECOND = probe
    constructor
    · rintro ⟨-, ⟨-, ⟨-, hsecond, hrest, -, hlast⟩, -⟩, -⟩
      by_cases hempty : rest = []
      · rw [hnone hempty, Nat.add_zero]
        exact ⟨by omega, hlast⟩
      · exact ⟨by have := (hrest hempty).1; omega, (hrest hempty).2⟩
    · rintro ⟨hlt, hlast⟩
      -- every other way through this turn takes less time
      have hmeets (span' : Nat) (hle : span - (probe + probe + others) ≤ span') :
          (q true).Meets limit licensed span' := hlast.mono hle
      exact ⟨fun _ => ⟨by omega, hmeets _ (by omega)⟩, ⟨by omega,
        ⟨fun _ => ⟨by omega, hmeets _ (by omega)⟩, by omega,
          fun _ => ⟨by omega, hmeets _ (by omega)⟩, fun _ => ⟨by omega, hmeets _ (by omega)⟩,
          hmeets _ (by omega)⟩, hmeets _ (by omega)⟩, fun _ => ⟨by omega, hmeets _ (by omega)⟩⟩

lemma meets_resolveSiteContainer {q : Bool → QualificationProgram Unit}
    (hfalse : ∀ span, (q false).Meets limit licensed span) :
    (resolveSiteContainer >>= q).Meets limit licensed span ↔
      (4 * IMAGE_INSPECT_TIMEOUT_SECONDS + PROCESS_TIMEOUT_SECONDS) * SECOND < span ∧
        (q true).Meets limit licensed
          (span - (6 * IMAGE_INSPECT_TIMEOUT_SECONDS + PROCESS_TIMEOUT_SECONDS) * SECOND) := by
  have hend : (4 * IMAGE_INSPECT_TIMEOUT_SECONDS + PROCESS_TIMEOUT_SECONDS) * SECOND =
      IMAGE_INSPECT_TIMEOUT_SECONDS * SECOND + IMAGE_INSPECT_TIMEOUT_SECONDS * SECOND +
        IMAGE_INSPECT_TIMEOUT_SECONDS * SECOND + IMAGE_INSPECT_TIMEOUT_SECONDS * SECOND +
          PROCESS_TIMEOUT_SECONDS * SECOND := by ring
  have hspan : (6 * IMAGE_INSPECT_TIMEOUT_SECONDS + PROCESS_TIMEOUT_SECONDS) * SECOND =
      IMAGE_INSPECT_TIMEOUT_SECONDS * SECOND + IMAGE_INSPECT_TIMEOUT_SECONDS * SECOND +
        IMAGE_INSPECT_TIMEOUT_SECONDS * SECOND + IMAGE_INSPECT_TIMEOUT_SECONDS * SECOND +
          PROCESS_TIMEOUT_SECONDS * SECOND + IMAGE_INSPECT_TIMEOUT_SECONDS * SECOND +
            IMAGE_INSPECT_TIMEOUT_SECONDS * SECOND := by ring
  rw [hend, hspan]
  simp [resolveSiteContainer, revalidateClosure, bind_assoc', hfalse, limit, licensed,
    QualificationProcess.timeoutSeconds, Nat.sub_sub]
  exact fun _ => by omega

/-- Until a tool is resolved, at the latest; in seconds. -/
def resolutionSeconds (configuration : BackendDeploymentConfiguration)
    (definition : CommercialDefinition) : Nat :=
  VERSION_PROBE_TIMEOUT_SECONDS + match configuration with
    | .hostModule => 2 * VERSION_PROBE_TIMEOUT_SECONDS * definition.executableCandidates.length
    | .siteContainer => 6 * IMAGE_INSPECT_TIMEOUT_SECONDS + PROCESS_TIMEOUT_SECONDS

/-- Until the last command of a workload has ended, at the latest; in seconds. -/
def workloadEnd (configuration : BackendDeploymentConfiguration) (definition : CommercialDefinition)
    (fixture : QualificationFixture) (timeoutSeconds : Nat) : Nat :=
  resolutionSeconds configuration definition +
    commandsSeconds configuration timeoutSeconds fixture.invocations +
    commandsEnd configuration timeoutSeconds fixture.invocations

/-- The resolution does not end before its first probe. -/
def Resolvable (configuration : BackendDeploymentConfiguration) (definition : CommercialDefinition)
    (probe : MetadataProbe) (deploymentToolId : Identifier) : Prop :=
  definition.workloadUseRequiresEulaAcceptance = false ∧
    BindingMatches definition probe deploymentToolId ∧
    (configuration = .hostModule → definition.executableCandidates ≠ [])

lemma meets_qualifyWorkload {definition : CommercialDefinition} {probe : MetadataProbe}
    {deploymentToolId : Identifier} {fixture : QualificationFixture}
    (hne : fixture.invocations ≠ []) :
    (qualifyWorkload configuration definition probe deploymentToolId fixture timeoutSeconds).Meets
        limit licensed span ↔
      (Resolvable configuration definition probe deploymentToolId →
        workloadEnd configuration definition fixture timeoutSeconds * SECOND < span) := by
  rw [qualifyWorkload, resolveAuthorizedCommercialBackend]
  cases heula : definition.workloadUseRequiresEulaAcceptance with
  | true => simp [Resolvable, heula]
  | false =>
    by_cases hbinding : BindingMatches definition probe deploymentToolId
    · -- the commands of both roles, once the tool is resolved
      have hcommands (span : Nat) :
          (do
            let _ ← timedCommands configuration timeoutSeconds fixture.invocations
            let _ ← timedCommands configuration timeoutSeconds fixture.invocations
            return () : QualificationProgram Unit).Meets limit licensed span ↔
          (commandsSeconds configuration timeoutSeconds fixture.invocations +
            commandsEnd configuration timeoutSeconds fixture.invocations) * SECOND < span := by
        rw [meets_timedCommands hne, meets_timedCommands hne, meets_pure, and_true, Nat.add_mul]
        omega
      cases configuration with
      | hostModule =>
        simp [hbinding, heula, bind_assoc', limit, licensed, QualificationProcess.timeoutSeconds,
          meets_resolveCandidates, hcommands, Resolvable, workloadEnd, resolutionSeconds,
          Nat.add_mul]
        exact imp_congr_right fun _ => by omega
      | siteContainer =>
        simp [hbinding, heula, bind_assoc', limit, licensed, QualificationProcess.timeoutSeconds,
          meets_resolveSiteContainer, hcommands, Resolvable, workloadEnd, resolutionSeconds,
          Nat.add_mul]
        have hprobe : 4 * IMAGE_INSPECT_TIMEOUT_SECONDS * SECOND ≤
            6 * IMAGE_INSPECT_TIMEOUT_SECONDS * SECOND :=
          Nat.mul_le_mul_right _ (Nat.mul_le_mul_right _ (by decide))
        omega
    · simp [Resolvable, heula, hbinding]

end Meets

/-! ### Threads -/

/-- Where a call of `qualify_commercial_backend` is. -/
inductive QualifyStage
  | checking | working | closing | ended
deriving DecidableEq, Repr

/-- An authorization that threads share. -/
structure AuthorizationWorld where
  authorization : CommercialQualificationAuthorization
  calls : List QualifyStage := []
  /-- How many workloads have been started. -/
  workloads : Nat := 0
  /-- How often `release` was called with the lease. -/
  releases : Nat := 0

/-- The arguments of a consumption, the clock and the state of the lease. -/
structure ConsumeCall where
  now : Datetime
  leaseState : LeaseState
  definition : CommercialDefinition
  probe : MetadataProbe
  fixture : QualificationFixture
  timeoutSeconds : Nat

inductive AuthorizationAction
  | enter
  /-- A check before the consumption raises. -/
  | refuse (call : Nat)
  | consume (call : Nat) (arguments : ConsumeCall)
  /-- The workload ends, by returning or by raising. -/
  | finish (call : Nat)
  /-- The call closes the authorization and ends. -/
  | close (call : Nat)
  /-- Somebody else closes the authorization. -/
  | closeOutside

namespace AuthorizationWorld

variable (digests : LicensingDigests) (w : AuthorizationWorld)

/-- A release that raises leaves the authorization closed too. -/
def closeAuthorization : AuthorizationWorld :=
  if w.authorization.closed then w
  else { w with authorization := { w.authorization with closed := true }
                releases := w.releases + 1 }

def moveTo (call : Nat) (stage : QualifyStage) : AuthorizationWorld :=
  { w with calls := w.calls.set call stage }

def step : AuthorizationAction → Option AuthorizationWorld
  | .enter => some { w with calls := w.calls ++ [.checking] }
  | .refuse call => if w.calls[call]? = some .checking then some (w.moveTo call .closing) else none
  | .consume call x =>
    if w.calls[call]? = some .checking then
      match w.authorization.consume digests x.now x.leaseState x.definition x.probe x.fixture
          x.timeoutSeconds with
      | .ok authorization =>
        some { w.moveTo call .working with authorization, workloads := w.workloads + 1 }
      | .error _ => some (w.moveTo call .closing)
    else none
  | .finish call => if w.calls[call]? = some .working then some (w.moveTo call .closing) else none
  | .close call =>
    if w.calls[call]? = some .closing then some (w.closeAuthorization.moveTo call .ended) else none
  | .closeOutside => some w.closeAuthorization

/-- Any number of steps. -/
def Steps : AuthorizationWorld → AuthorizationWorld → Prop :=
  Relation.ReflTransGen fun w w' => ∃ a, w.step digests a = some w'

/-- Workloads are counted by the consumption, releases by the closing, which ends every call. -/
structure Invariant : Prop where
  workloads : w.workloads = if w.authorization.consumed then 1 else 0
  releases : w.releases = if w.authorization.closed then 1 else 0
  ended : .ended ∈ w.calls → w.authorization.closed = true

variable {digests w} {w' : AuthorizationWorld}

lemma Invariant.moveTo (h : w.Invariant) {call : Nat} {stage : QualifyStage}
    (hstage : stage ≠ .ended) : (w.moveTo call stage).Invariant := by
  refine ⟨h.workloads, h.releases, fun hended => h.ended ?_⟩
  rcases List.mem_or_eq_of_mem_set hended with hmem | heq
  · exact hmem
  · exact absurd heq.symm hstage

lemma closeAuthorization_closed : w.closeAuthorization.authorization.closed = true := by
  rw [closeAuthorization]
  split_ifs with hclosed
  · exact hclosed
  · rfl

lemma Invariant.closeAuthorization (h : w.Invariant) : w.closeAuthorization.Invariant := by
  by_cases hclosed : w.authorization.closed = true
  · rwa [AuthorizationWorld.closeAuthorization, if_pos hclosed]
  · rw [AuthorizationWorld.closeAuthorization, if_neg hclosed]
    have hreleases := h.releases
    rw [if_neg hclosed] at hreleases
    exact ⟨h.workloads, congrArg (· + 1) hreleases, fun _ => rfl⟩

lemma Invariant.step (h : w.Invariant) {a : AuthorizationAction}
    (hstep : w.step digests a = some w') : w'.Invariant := by
  cases a with
  | enter =>
    obtain rfl : _ = w' := Option.some.inj hstep
    refine ⟨h.workloads, h.releases, fun hended => h.ended ?_⟩
    simpa using hended
  | refuse call =>
    rw [AuthorizationWorld.step] at hstep
    split_ifs at hstep
    obtain rfl : _ = w' := Option.some.inj hstep
    exact h.moveTo (by decide)
  | finish call =>
    rw [AuthorizationWorld.step] at hstep
    split_ifs at hstep
    obtain rfl : _ = w' := Option.some.inj hstep
    exact h.moveTo (by decide)
  | consume call x =>
    rw [AuthorizationWorld.step] at hstep
    split_ifs at hstep
    split at hstep
    · rename_i authorization hconsume
      obtain rfl : _ = w' := Option.some.inj hstep
      obtain ⟨-, hconsumed, -, rfl⟩ :=
        CommercialQualificationAuthorization.consume_eq_ok hconsume
      have hmoved : (w.moveTo call .working).Invariant := h.moveTo (by decide)
      have hworkloads := h.workloads
      rw [hconsumed] at hworkloads
      refine ⟨?_, hmoved.releases, hmoved.ended⟩
      simp [hworkloads]
    · obtain rfl : _ = w' := Option.some.inj hstep
      exact h.moveTo (by decide)
  | close call =>
    rw [AuthorizationWorld.step] at hstep
    split_ifs at hstep
    obtain rfl : _ = w' := Option.some.inj hstep
    have hclosed := h.closeAuthorization
    exact ⟨hclosed.workloads, hclosed.releases, fun _ => closeAuthorization_closed⟩
  | closeOutside =>
    obtain rfl : _ = w' := Option.some.inj hstep
    exact h.closeAuthorization

lemma Invariant.steps (h : w.Invariant) (hsteps : Steps digests w w') : w'.Invariant := by
  induction hsteps with
  | refl => exact h
  | tail _ hstep ih =>
    obtain ⟨a, hstep⟩ := hstep
    exact ih.step hstep

end AuthorizationWorld

open QualificationProcess in
/-- The probes and the commands of an admitted workload end before the authorization does, exactly
when the rest of the lease covers the slowest resolution too. An authorization starts one workload
at most; its lease is released when the first call ends, and never again; and an authorization that
is refused has released what was acquired. -/
theorem licensed_workload {digests : LicensingDigests} {broker : LicenseBroker}
    {definition : CommercialDefinition} {probe : MetadataProbe} {fixture : QualificationFixture}
    {runId : Identifier} {maxExecutionSeconds : Int} {answers : AuthorizeAnswers}
    (hne : fixture.invocations ≠ []) :
    (match broker.authorize digests definition probe fixture maxExecutionSeconds answers runId with
      | (.ok _, desk) => desk = { acquired := 1, released := 0 }
      | (.error _, desk) => desk.released = desk.acquired ∧ desk.acquired ≤ 1) ∧
    ∀ authorization : CommercialQualificationAuthorization,
      (∀ configuration now leaseState deploymentToolId timeoutSeconds authorization',
        authorization.consume digests now leaseState definition probe fixture timeoutSeconds =
            .ok authorization' →
        ((∀ trace, (qualifyWorkload configuration definition probe deploymentToolId fixture
              timeoutSeconds).Runs limit trace →
            ∀ x ∈ ends 0 trace, licensed x.1 = true →
              now + (x.2 : Int) < authorization.receipt.expiresAt) ↔
          (Resolvable configuration definition probe deploymentToolId →
            now + (workloadEnd configuration definition fixture timeoutSeconds * SECOND : Nat) <
              authorization.receipt.expiresAt))) ∧
      (authorization.consumed = false → authorization.closed = false →
        ∀ w, AuthorizationWorld.Steps digests { authorization } w →
          w.workloads ≤ 1 ∧ w.releases ≤ 1 ∧ (.ended ∈ w.calls → w.releases = 1)) := by
  refine ⟨broker.authorize_released digests definition probe fixture maxExecutionSeconds answers
    runId, fun authorization => ⟨fun configuration now leaseState deploymentToolId timeoutSeconds
      authorization' hconsume => ?_, fun hconsumed hclosed w hw => ?_⟩⟩
  · obtain ⟨-, -, hnow, -⟩ := CommercialQualificationAuthorization.consume_eq_ok hconsume
    obtain ⟨span, hspan⟩ := Int.le.dest hnow
    have hlt (time : Nat) : now + (time : Int) < authorization.receipt.expiresAt ↔ time < span := by
      rw [← hspan]
      exact (add_lt_add_iff_left now).trans Int.ofNat_lt
    simp only [hlt]
    exact endsWithin_iff.trans (meets_qualifyWorkload hne)
  · have hinv := AuthorizationWorld.Invariant.steps (w := { authorization })
      ⟨by simp [hconsumed], by simp [hclosed], by simp⟩ hw
    have hworkloads := hinv.workloads
    have hreleases := hinv.releases
    refine ⟨?_, ?_, fun hended => ?_⟩
    · split_ifs at hworkloads <;> omega
    · split_ifs at hreleases <;> omega
    · rw [hreleases, if_pos (hinv.ended hended)]

/-! ### A lease that is too short -/

/-- One command, one candidate, and a second for each of the two roles. -/
def licensedFixture : QualificationFixture where
  toolId := "lint_tool"
  capability := .rtlLint
  inputs := [⟨"design", "design.v", [1], "text/plain"⟩]
  invocations := [.tool ["design.v"]]
  outputs := []
  parser := ⟨fun _ => .ok true, fun _ => .ok none, "parser"⟩
  rejectionInputs := [⟨"design", "design.v", [2], "text/plain"⟩]
  rejectionReason := some .ruleViolation
  logProjection := some { markers := [[79, 75]] }

def licensedDefinition : CommercialDefinition where
  toolId := "lint_tool"
  vendor := .synopsys
  driverDigest := "driver"
  capabilities := [.rtlLint]
  executableCandidates := ["lint_tool"]

def licensedProbe : MetadataProbe :=
  ⟨⟨"lint_tool", .synopsys, [.rtlLint], .detected, none, some "metadata", "driver"⟩, .default⟩

def licensedDigests : LicensingDigests := ⟨fun _ => "probe", fun _ => "fixture", fun _ => "binding"⟩

def licensedBroker : LicenseBroker :=
  ⟨⟨"lint_license", "host", "provider", "lint", 23⟩, "lint_tool"⟩

def licensedAnswers : AuthorizeAnswers where
  canonicalDriverDigest := some "driver"
  canonicalFixtureDigest := some "fixture"
  deploymentRevalidates := true
  probedInstallation := false
  currentProbeDigest := "probe"
  runIdValid := true
  acquiringAt := 0
  lease := some ⟨"lease", "host", "lint", 23000000, [], .active⟩
  authorizedAt := 0
  authorizationId := "authorization"

open QualificationProcess in
/-- The lease of 23 seconds covers one probe, two commands and the guard; asking for the module and
probing the only candidate may take 40. -/
theorem short_lease_admitted : ∃ receipt lease authorization,
    licensedBroker.authorize licensedDigests licensedDefinition licensedProbe licensedFixture 2
        licensedAnswers "run" = (.ok (receipt, lease), { acquired := 1 }) ∧
      CommercialQualificationAuthorization.consume licensedDigests { receipt } 0 .active
        licensedDefinition licensedProbe licensedFixture 1 = .ok authorization ∧
      ¬ ∀ trace, (qualifyWorkload .hostModule licensedDefinition licensedProbe "lint_tool"
          licensedFixture 1).Runs limit trace →
        ∀ x ∈ ends 0 trace, licensed x.1 = true → (0 : Int) + (x.2 : Int) < receipt.expiresAt := by
  refine ⟨_, _, _, rfl, rfl, fun h => ?_⟩
  have hends : (qualifyWorkload .hostModule licensedDefinition licensedProbe "lint_tool"
      licensedFixture 1).EndsWithin limit licensed 23000000 := by
    intro trace htrace x hx hlicensed
    have hbefore : (0 : Int) + (x.2 : Int) < (23000000 : Nat) := h trace htrace x hx hlicensed
    rw [Int.zero_add] at hbefore
    exact Int.ofNat_lt.mp hbefore
  have hmeets := (meets_qualifyWorkload (by decide)).mp (endsWithin_iff.mp hends)
  exact absurd (hmeets ⟨rfl, by decide, by decide⟩) (by decide)

/-- With a lease of 63 seconds. -/
def longReceipt : AuthorizationReceipt where
  toolId := "lint_tool"
  vendor := .synopsys
  capability := .rtlLint
  driverDigest := "driver"
  fixtureDigest := "fixture"
  authorizationId := "authorization"
  runId := "run"
  metadataProbeDigest := "probe"
  licenseBindingId := "lint_license"
  licenseBindingDigest := "binding"
  providerId := "host"
  providerDigest := "provider"
  featureClass := "lint"
  maxExecutionSeconds := 2
  authorizedAt := 0
  expiresAt := 63000000

open QualificationProcess in
theorem long_lease_covers :
    (0 : Int) + (workloadEnd .hostModule licensedDefinition licensedFixture 1 * SECOND : Nat) <
        longReceipt.expiresAt ∧
      ∀ trace, (qualifyWorkload .hostModule licensedDefinition licensedProbe "lint_tool"
          licensedFixture 1).Runs limit trace →
        ∀ x ∈ ends 0 trace, licensed x.1 = true →
          (0 : Int) + (x.2 : Int) < longReceipt.expiresAt := by
  have hcovers : (0 : Int) +
      (workloadEnd .hostModule licensedDefinition licensedFixture 1 * SECOND :
      Nat) < longReceipt.expiresAt := by decide
  refine ⟨hcovers, ?_⟩
  exact (((@licensed_workload licensedDigests licensedBroker licensedDefinition licensedProbe
    licensedFixture "run" 2 licensedAnswers (by decide)).2 { receipt := longReceipt }).1
      .hostModule 0 .active "lint_tool" 1 _ rfl).mpr fun _ => hcovers

end EdaGym
