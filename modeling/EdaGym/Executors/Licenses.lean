import EdaGym.Lib.Hexadecimal
import EdaGym.Specs.Common
import Mathlib.Data.List.Basic
import Mathlib.Data.List.Induction

/-!
# License leases and the providers that issue them

A lease is an object that its provider, other providers and the tools share: the providers keep
references to it, and its state is read at any time, also without a lock. A provider counts the
leases in its table, which are looked up by their identifiers.
-/

namespace EdaGym

/-! ### Leases -/

inductive LeaseState
  | active | denied | expired | released
deriving DecidableEq, Repr

inductive LicenseError
  | unavailable (message : String)
  | value (message : String)
  /-- An argument is not of its declared type. -/
  | validation
deriving DecidableEq, Repr

abbrev ProcessEnvironment := List (String × String)

structure LicenseLease where
  leaseId : String
  providerId : Identifier
  featureClass : Identifier
  expiresAt : Datetime
  environment : ProcessEnvironment
  /-- What was last written down of the state. -/
  mark : LeaseState := .active

namespace LicenseLease

/-- The state that a reader is given. -/
def state (lease : LicenseLease) (now : Datetime) : LeaseState :=
  if lease.mark = .active ∧ lease.expiresAt ≤ now then .expired else lease.mark

/-- Reading the state writes down that the lease has expired. -/
def read (lease : LicenseLease) (now : Datetime) : LicenseLease :=
  { lease with mark := lease.state now }

def processEnvironment (lease : LicenseLease) (now : Datetime) :
    Except LicenseError ProcessEnvironment :=
  if lease.state now ≠ .active then .error (.unavailable "license lease is no longer active")
  else .ok lease.environment

def release (lease : LicenseLease) : LicenseLease :=
  if lease.mark ≠ .released then { lease with environment := [], mark := .released } else lease

variable {lease : LicenseLease} {now later : Datetime}

lemma state_eq_active :
    lease.state now = .active ↔ lease.mark = .active ∧ now < lease.expiresAt := by
  rw [state]
  split_ifs with h
  · simp only [false_iff, not_and, not_lt]
    exact fun _ => h.2
  · constructor
    · exact fun hmark => ⟨hmark, lt_of_not_ge fun hdue => h ⟨hmark, hdue⟩⟩
    · exact And.left

/-- A read is not seen by any later one. -/
lemma state_read (h : now ≤ later) : (lease.read now).state later = lease.state later := by
  by_cases hdue : lease.mark = .active ∧ lease.expiresAt ≤ now
  · have hlater : lease.mark = .active ∧ lease.expiresAt ≤ later := ⟨hdue.1, hdue.2.trans h⟩
    simp [read, state, hdue, hlater]
  · simp [read, state, hdue]

lemma mark_release : lease.release.mark = .released := by
  rw [release]
  split_ifs with h
  · rfl
  · exact not_not.mp h

lemma state_release : lease.release.state now = .released := by
  simp [state, mark_release]

lemma leaseId_release : lease.release.leaseId = lease.leaseId := by
  rw [release]; split_ifs <;> rfl

lemma featureClass_release : lease.release.featureClass = lease.featureClass := by
  rw [release]; split_ifs <;> rfl

lemma processEnvironment_of_not_active (h : lease.state now ≠ .active) :
    lease.processEnvironment now = .error (.unavailable "license lease is no longer active") :=
  if_pos h

end LicenseLease

/-- What became of a lease after some steps: it is the same lease, and it is active only if it was
active before. -/
structure LaterLease (now : Datetime) (lease : LicenseLease) (now' : Datetime)
    (lease' : LicenseLease) : Prop where
  leaseId : lease'.leaseId = lease.leaseId
  featureClass : lease'.featureClass = lease.featureClass
  active : lease'.state now' = .active → lease.state now = .active

namespace LaterLease

variable {now now' now'' : Datetime} {lease lease' lease'' : LicenseLease}

lemma trans (h : LaterLease now lease now' lease') (h' : LaterLease now' lease' now'' lease'') :
    LaterLease now lease now'' lease'' :=
  ⟨h'.leaseId.trans h.leaseId, h'.featureClass.trans h.featureClass, h.active ∘ h'.active⟩

/-- Time passes. -/
lemma pass (h : now ≤ now') : LaterLease now lease now' lease := by
  refine ⟨rfl, rfl, fun hactive => ?_⟩
  rw [LicenseLease.state_eq_active] at hactive ⊢
  exact ⟨hactive.1, h.trans_lt hactive.2⟩

lemma read : LaterLease now lease now (lease.read now) :=
  ⟨rfl, rfl, fun hactive => by rwa [LicenseLease.state_read le_rfl] at hactive⟩

lemma release : LaterLease now lease now lease.release :=
  ⟨LicenseLease.leaseId_release, LicenseLease.featureClass_release, fun hactive => by
    rw [LicenseLease.state_release] at hactive
    cases hactive⟩

end LaterLease

/-! ### Identifiers of leases -/

def hostLeaseId (counter : Nat) (token : String) : String :=
  "commercial_" ++ String.ofList (hexDigits8 counter) ++ "_" ++ token

def fakeLeaseId (counter : Nat) : String := "lease_" ++ String.ofList (hexDigits8 counter)

lemma hostLeaseId_inj {counter counter' : Nat} {token token' : String}
    (h : hostLeaseId counter token = hostLeaseId counter' token') : counter = counter' := by
  have hchars := congrArg String.toList h
  simp only [hostLeaseId, String.toList_append, String.toList_ofList, List.append_assoc,
    List.append_cancel_left_eq] at hchars
  change hexDigits8 counter ++ '_' :: token.toList =
    hexDigits8 counter' ++ '_' :: token'.toList at hchars
  have hdigits := congrArg (List.takeWhile (· ≠ '_')) hchars
  rw [takeWhile_hexDigits8, takeWhile_hexDigits8] at hdigits
  exact hexDigits8_injective hdigits

lemma fakeLeaseId_injective : Function.Injective fakeLeaseId := by
  intro counter counter' h
  have hchars := congrArg String.toList h
  simp only [fakeLeaseId, String.toList_append, String.toList_ofList,
    List.append_cancel_left_eq] at hchars
  exact hexDigits8_injective hchars

/-! ### Providers -/

/-- A lease is an object, and this is the reference to it. -/
abbrev LeaseRef := Nat

structure HostModuleLicenses where
  featureClass : Identifier
  maxCheckouts : Nat
  maxCheckouts_pos : 0 < maxCheckouts

structure FakeLicenses where
  capacities : Dict Identifier Nat
  capacities_ne : capacities.isEmpty = false
  capacities_pos : ∀ n ∈ capacities.values, 0 < n

inductive LicenseProviderKind
  | host (licenses : HostModuleLicenses)
  | fake (licenses : FakeLicenses)

structure LicenseProvider where
  providerId : Identifier
  kind : LicenseProviderKind
  active : Dict String LeaseRef := .empty
  counter : Nat := 0
  /-- The leases it has made, which the code writes down nowhere. -/
  issued : List LeaseRef := []

structure AcquireCall where
  featureClass : Identifier
  runId : String
  ttlSeconds : Int

/-- What the surroundings say while a lease is acquired: whether the module environment could be
loaded, the random part of an identifier, and how long it took. -/
structure AcquireAnswer where
  environment : Option ProcessEnvironment := some []
  token : String := ""
  lasted : Nat := 0

def seconds (n : Int) : Datetime := n * 1000000

def LicenseProviderKind.capacity : LicenseProviderKind → Identifier → Nat
  | .host licenses, feature => if feature = licenses.featureClass then licenses.maxCheckouts else 0
  | .fake licenses, feature => (licenses.capacities.get? feature).getD 0

def LicenseProviderKind.leaseId : LicenseProviderKind → Nat → String → String
  | .host _, counter, token => hostLeaseId counter token
  | .fake _, counter, _ => fakeLeaseId counter

lemma LicenseProviderKind.leaseId_inj {kind : LicenseProviderKind} {n n' : Nat}
    {token token' : String}
    (h : kind.leaseId n token = kind.leaseId n' token') : n = n' := by
  cases kind with
  | host => exact hostLeaseId_inj h
  | fake => exact fakeLeaseId_injective h

/-- A provider and the leases that there are, which is what a section under its lock may change. -/
structure LicenseCustody where
  leases : List LicenseLease
  provider : LicenseProvider

namespace LicenseCustody

def isActive (leases : List LicenseLease) (now : Datetime) (r : LeaseRef) : Bool :=
  leases[r]?.any fun lease => lease.state now = .active

def hasFeature (leases : List LicenseLease) (feature : Identifier) (r : LeaseRef) : Bool :=
  leases[r]?.any fun lease => lease.featureClass = feature

/-- What reading the states has written down is overwritten by the release. -/
def discardInactive (c : LicenseCustody) (now : Datetime) : LicenseCustody :=
  let stale := c.provider.active.entries.filter fun entry => !isActive c.leases now entry.2
  { leases := c.leases.mapIdx fun r lease =>
      if r ∈ stale.map Prod.snd then lease.release else lease
    provider := { c.provider with
      active := c.provider.active.filterKeys fun leaseId => leaseId ∉ stale.map Prod.fst } }

/-- A new lease, entered into the table. -/
def issue (c : LicenseCustody) (feature : Identifier) (expiresAt : Datetime)
    (environment : ProcessEnvironment) (token : String) : LeaseRef × LicenseCustody :=
  let counter := c.provider.counter + 1
  let leaseId := c.provider.kind.leaseId counter token
  let r := c.leases.length
  (r,
    { leases := c.leases ++ [
        { leaseId, providerId := c.provider.providerId, featureClass := feature, expiresAt,
          environment }]
      provider := { c.provider with
        active := c.provider.active.insert leaseId r, counter
        issued := c.provider.issued ++ [r] } })

def acquireHost (isRunId : String → Bool) (licenses : HostModuleLicenses) (c : LicenseCustody)
    (now : Datetime) (call : AcquireCall) (answer : AcquireAnswer) :
    Except LicenseError LeaseRef × LicenseCustody :=
  if ¬ isRunId call.runId then (.error .validation, c)
  else if call.featureClass ≠ licenses.featureClass then
    (.error (.unavailable "license feature is unavailable"), c)
  else if call.ttlSeconds ≤ 0 then (.error (.value "license TTL must be positive"), c)
  else
    let c := c.discardInactive now
    if licenses.maxCheckouts ≤ c.provider.active.entries.length then
      (.error (.unavailable "license feature is unavailable"), c)
    else
      match answer.environment with
      | none => (.error (.unavailable "license environment is unavailable"), c)
      | some environment =>
        let (r, c) := c.issue licenses.featureClass
          (now + answer.lasted + seconds call.ttlSeconds) environment answer.token
        (.ok r, c)

def acquireFake (licenses : FakeLicenses) (c : LicenseCustody) (now : Datetime)
    (call : AcquireCall) (answer : AcquireAnswer) :
    Except LicenseError LeaseRef × LicenseCustody :=
  if call.ttlSeconds ≤ 0 then (.error (.value "license TTL must be positive"), c)
  else
    let c := c.discardInactive now
    let active := (c.provider.active.entries.filter fun entry =>
      hasFeature c.leases call.featureClass entry.2 && isActive c.leases now entry.2).length
    match licenses.capacities.get? call.featureClass with
    | none => (.error (.unavailable "license feature is unavailable"), c)
    | some capacity =>
      if capacity ≤ active then (.error (.unavailable "license feature is unavailable"), c)
      else
        let (r, c) := c.issue call.featureClass
          (now + answer.lasted + seconds call.ttlSeconds) [] answer.token
        (.ok r, c)

def acquire (isRunId : String → Bool) (c : LicenseCustody) (now : Datetime) (call : AcquireCall)
    (answer : AcquireAnswer) : Except LicenseError LeaseRef × LicenseCustody :=
  match c.provider.kind with
  | .host licenses => c.acquireHost isRunId licenses now call answer
  | .fake licenses => c.acquireFake licenses now call answer

/-- `lease` is what `r` refers to. -/
def renew (c : LicenseCustody) (now : Datetime) (r : LeaseRef) (lease : LicenseLease)
    (ttlSeconds : Int) : Except LicenseError LeaseState × LicenseCustody :=
  if ttlSeconds ≤ 0 then (.error (.value "license TTL must be positive"), c)
  else if c.provider.active.get? lease.leaseId ≠ some r ∨ lease.state now ≠ .active then
    (.ok (lease.state now), { c with leases := c.leases.set r (lease.read now) })
  else
    let renewed := { lease with expiresAt := now + seconds ttlSeconds }
    (.ok (renewed.state now), { c with leases := c.leases.set r renewed })

/-- The entry is removed before it is known to be this lease's own. -/
def release (c : LicenseCustody) (now : Datetime) (r : LeaseRef) (lease : LicenseLease) :
    LeaseState × LicenseCustody :=
  let owned := c.provider.active.get? lease.leaseId
  let provider := { c.provider with active := c.provider.active.erase lease.leaseId }
  let lease := if owned = some r then lease.release else lease
  (lease.state now, { leases := c.leases.set r (lease.read now), provider })

end LicenseCustody

end EdaGym
