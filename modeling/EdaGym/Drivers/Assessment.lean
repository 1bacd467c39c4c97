import EdaGym.Drivers.QualificationRecord
import Mathlib.Data.Prod.Lex
import Mathlib.Data.String.Basic

/-!
# Assessments

An assessment puts the evidence of both roles of every requested capability together, with a gap
for each capability that was not executed, and derives the disposition of the backend.
-/

namespace EdaGym

inductive QualificationGapReason
  | probeNotInvocable | licenseAuthorizationRequired | authorizedBindingMismatch
  | authorizedLicenseUnavailable | authorizedIdentityChanged | authorizedExecutableUnavailable
  | hostRuntimeDependencyUnavailable | authorizedVersionProbeFailed | fixtureUnavailable
  | eulaAcceptanceRequired | semanticCoverageIncomplete
deriving DecidableEq, Repr

inductive QualificationDisposition
  | unavailable | probeOnly | incomplete | nonconformant | conformant
deriving DecidableEq, Repr

structure CapabilityGap where
  capability : Capability
  reason : QualificationGapReason

/-- The fixtures of the catalog, with what `validate_fixture_catalog` checks. -/
structure FixtureCatalog where
  fixtures : List QualificationFixture
  keys_nodup : (fixtures.map fun fixture => (fixture.toolId, fixture.capability)).Nodup
  canonical : ∀ fixture ∈ fixtures, fixture.Canonical

/-- `fixture_for`. -/
def FixtureCatalog.fixtureFor (catalog : FixtureCatalog) (toolId : Identifier)
    (capability : Capability) : Except String (Option QualificationFixture) :=
  match catalog.fixtures.filter fun fixture =>
    fixture.toolId = toolId ∧ fixture.capability = capability with
  | [] => .ok none
  | [fixture] => .ok (some fixture)
  | _ => .error "qualification fixture registry contains duplicate ownership"

/-- `len({f(x) for x in xs}) <= 1`. -/
def AllSame {α β : Type} (f : α → β) (xs : List α) : Prop := ∀ x ∈ xs, ∀ y ∈ xs, f x = f y

instance {α β : Type} [DecidableEq β] (f : α → β) (xs : List α) : Decidable (AllSame f xs) :=
  inferInstanceAs (Decidable (∀ x ∈ xs, ∀ y ∈ xs, f x = f y))

/-- The identity of the installation that evidence was recorded with. -/
structure ResolutionIdentity where
  executableDigest : Digest
  executionClosureDigest : Digest
  versionOutputDigest : Digest
  executableInvocationMode : ExecutableInvocationMode
  deploymentRecordDigest : Option Digest
  modulefileDigest : Option Digest
deriving DecidableEq

def QualificationEvidence.resolutionIdentity (e : QualificationEvidence) : ResolutionIdentity where
  executableDigest := e.executableDigest
  executionClosureDigest := e.executionClosureDigest
  versionOutputDigest := e.versionOutputDigest
  executableInvocationMode := e.executableInvocationMode
  deploymentRecordDigest := e.deploymentRecordDigest
  modulefileDigest := e.modulefileDigest

/-- What the two roles of a capability share. -/
structure QualificationEvidence.SharesJoint (acceptance rejection : QualificationEvidence) :
    Prop where
  pairId : acceptance.fixture.pairId = rejection.fixture.pairId
  parser : acceptance.fixture.parserDigest = rejection.fixture.parserDigest
  invocations : acceptance.fixture.invocations = rejection.fixture.invocations
  outputs :
    acceptance.fixture.outputs.map (fun item => (item.path, item.required, item.mediaType)) =
      rejection.fixture.outputs.map fun item => (item.path, item.required, item.mediaType)
  inputs : acceptance.fixture.inputs.map (fun item => (item.path, item.mediaType)) =
    rejection.fixture.inputs.map fun item => (item.path, item.mediaType)
  assets :
    acceptance.restrictedAssets.map
        (fun item => (item.assetId, item.path, item.restrictedDigest, item.mediaType)) =
      rejection.restrictedAssets.map
        fun item => (item.assetId, item.path, item.restrictedDigest, item.mediaType)
  grant : acceptance.resourceGrant = rejection.resourceGrant

instance (acceptance rejection : QualificationEvidence) :
    Decidable (acceptance.SharesJoint rejection) :=
  decidable_of_iff (_ ∧ _ ∧ _ ∧ _ ∧ _ ∧ _ ∧ _)
    ⟨fun ⟨a, b, c, d, e, f, g⟩ => ⟨a, b, c, d, e, f, g⟩,
      fun ⟨a, b, c, d, e, f, g⟩ => ⟨a, b, c, d, e, f, g⟩⟩

structure BackendQualification where
  probe : BackendProbe
  requestedCapabilities : List Capability
  evidence : List QualificationEvidence
  gaps : List CapabilityGap
  disposition : QualificationDisposition

variable (ids : QualificationIdentities) (catalog : FixtureCatalog)

/-- `any(not is_comprehensive_claim(...) for item in evidence)`. -/
def anyIncomprehensive : List QualificationEvidence → Except String Bool
  | [] => pure false
  | item :: rest => do
    let comprehensive ← isComprehensiveClaim ids.toFixtureIdentities item.capability
      item.fixture.semanticClaimId item.fixture.semanticJoints
    if comprehensive then anyIncomprehensive rest else pure true

/-- `_derive_disposition`. -/
def deriveDisposition (probe : BackendProbe) (evidence : List QualificationEvidence)
    (gaps : List CapabilityGap) : Except String QualificationDisposition :=
  if probe.state = .unavailable then pure .unavailable
  else if evidence = [] ∧ gaps ≠ [] ∧ ∀ gap ∈ gaps, gap.reason = .eulaAcceptanceRequired then
    pure .unavailable
  else if ∃ item ∈ evidence, item.outcome = .failed then pure .nonconformant
  else if evidence = [] ∧ gaps ≠ [] ∧ ∀ gap ∈ gaps, gap.reason = .licenseAuthorizationRequired then
    pure .probeOnly
  else if gaps ≠ [] then pure .incomplete
  else do
    let incomprehensive ← anyIncomprehensive ids evidence
    pure (if incomprehensive then .incomplete else .conformant)

namespace BackendQualification

variable (q : BackendQualification)

def rolesOf (capability : Capability) : List FixtureRole :=
  (q.evidence.filter fun item => item.capability = capability).map (·.role)

def covered (capability : Capability) : Prop :=
  ∀ role ∈ FixtureRole.all, role ∈ q.rolesOf capability

instance (capability : Capability) : Decidable (q.covered capability) :=
  inferInstanceAs (Decidable (∀ role ∈ FixtureRole.all, role ∈ q.rolesOf capability))

def missing : List Capability := q.gaps.map (·.capability)

/-- The evidence of a role of a capability. -/
def paired (capability : Capability) (role : FixtureRole) : Option QualificationEvidence :=
  q.evidence.find? fun item => item.capability = capability ∧ item.role = role

/-- Evidence and gaps partition the requested capabilities. -/
def checkPartition : Except String Unit := do
  raiseIf (¬ q.requestedCapabilities ⊆ q.probe.capabilities)
    "qualification requests a capability absent from its probe"
  raiseIf (∃ item ∈ q.evidence, item.capability ∉ q.requestedCapabilities)
    "qualification evidence contains an unrequested capability"
  raiseIf (∃ capability ∈ q.requestedCapabilities,
      q.rolesOf capability ≠ [] ∧ ¬ q.covered capability)
    "qualification evidence requires both roles per capability"
  raiseIf ((∃ capability ∈ q.requestedCapabilities,
        q.covered capability ∧ capability ∈ q.missing) ∨
      (∃ capability ∈ q.requestedCapabilities,
        ¬ q.covered capability ∧ capability ∉ q.missing) ∨
      ∃ capability ∈ q.missing, capability ∉ q.requestedCapabilities)
    "qualification evidence and gaps must partition requested capabilities"

/-- Every evidence binds the probe, one installation and its canonical fixture. -/
def checkBinding : Except String Unit := do
  raiseIf (∃ item ∈ q.evidence,
      item.toolId ≠ q.probe.toolId ∨ item.vendor ≠ q.probe.vendor ∨
        item.driverDigest ≠ q.probe.driverDigest ∨
          item.backendProbeDigest ≠ ids.probeDigest q.probe ∨
            some item.toolVersion ≠ q.probe.toolVersion ∨
              some item.deploymentAttestationDigest ≠ q.probe.deploymentAttestationDigest)
    "qualification evidence must bind the assessed probe"
  raiseIf (¬ AllSame (·.resolutionIdentity) q.evidence)
    "one qualification must use one exact resolved installation"
  q.evidence.forM fun item => do
    let fixture ← catalog.fixtureFor item.toolId item.capability
    let fixture ← orRaise fixture "qualification evidence differs from its canonical fixture"
    let snapshot ← fixture.snapshotFor ids.toFixtureIdentities item.role
    let digest ← fixture.digest ids.toFixtureIdentities
    raiseIf (item.fixture ≠ snapshot ∨ item.fixturePairDigest ≠ digest ∨
        item.fixture.toolId ≠ item.toolId ∨ item.fixture.capability ≠ item.capability)
      "qualification evidence differs from its canonical fixture"

/-- The two roles of a covered capability. -/
def checkPair (capability : Capability) : Except String Unit := do
  let acceptance ← orRaise (q.paired capability .acceptance) "acceptance"
  let rejection ← orRaise (q.paired capability .rejection) "rejection"
  raiseIf (¬ acceptance.SharesJoint rejection)
    "qualification evidence roles must share one semantic joint"
  raiseIf (acceptance.fixturePairDigest ≠ ids.pairDigest acceptance.fixture rejection.fixture ∨
      rejection.fixturePairDigest ≠ ids.pairDigest acceptance.fixture rejection.fixture)
    "qualification evidence does not bind its immutable pair"

/-- `validate_partition_and_disposition`. -/
def validatePartitionAndDisposition : Except String Unit := do
  q.checkPartition
  q.checkBinding ids catalog
  (q.requestedCapabilities.filter fun capability => q.covered capability).forM (q.checkPair ids)
  raiseIf (¬ AllSame (·.artifactPolicyDigest) q.evidence)
    "one qualification assessment must use one artifact policy"
  let expected ← deriveDisposition ids q.probe q.evidence q.gaps
  raiseIf (q.disposition ≠ expected) "qualification disposition is inconsistent with its evidence"

/-- `BackendQualification(...)`: the lists are normalised, then the whole is validated. -/
def build : Except String BackendQualification := do
  raiseIf (q.requestedCapabilities = [] ∨ ¬ q.requestedCapabilities.Nodup)
    "qualification capabilities must be unique and non-empty"
  raiseIf (¬ (q.evidence.map fun item => (item.capability, item.role)).Nodup)
    "qualification evidence roles must be unique per capability"
  raiseIf (¬ (q.gaps.map (·.capability)).Nodup)
    "a qualification result may contain one gap per capability"
  let built :=
    { q with
      requestedCapabilities := sortedBy (·.value) q.requestedCapabilities
      evidence := sortedOn (fun item => toLex (item.capability.value, item.role.value)) q.evidence
      gaps := sortedBy (·.capability.value) q.gaps }
  built.validatePartitionAndDisposition ids catalog
  pure built

end BackendQualification

/-- `_assessment`. -/
def assessment (probe : BackendProbe) (requested : List Capability)
    (evidence : List QualificationEvidence) (gaps : List CapabilityGap) :
    Except String BackendQualification := do
  let disposition ← deriveDisposition ids probe evidence gaps
  BackendQualification.build ids catalog ⟨probe, requested, evidence, gaps, disposition⟩

variable {ids : QualificationIdentities} {catalog : FixtureCatalog}

/-! ### Canonical fixtures -/

lemma filter_key_eq {α β : Type} [DecidableEq β] {key : α → β} {xs : List α}
    (hnodup : (xs.map key).Nodup) {x : α} (hx : x ∈ xs) :
    (xs.filter fun y => key y = key x) = [x] := by
  induction xs with
  | nil => cases hx
  | cons y ys ih =>
    rw [List.map_cons, List.nodup_cons] at hnodup
    rcases List.mem_cons.mp hx with rfl | hx
    · rw [List.filter_cons_of_pos (by simp), List.filter_eq_nil_iff.mpr]
      intro z hz heq
      exact hnodup.1 (of_decide_eq_true heq ▸ List.mem_map_of_mem hz)
    · rw [List.filter_cons_of_neg, ih hnodup.2 hx]
      intro heq
      exact hnodup.1 (of_decide_eq_true heq ▸ List.mem_map_of_mem hx)

lemma forM_eq_ok {ε α : Type} {f : α → Except ε PUnit} {xs : List α}
    (h : ∀ x ∈ xs, f x = .ok ⟨⟩) : xs.forM f = .ok ⟨⟩ := by
  induction xs with
  | nil => rfl
  | cons x xs ih =>
    rw [List.forall_mem_cons] at h
    show (f x >>= fun _ => xs.forM f) = _
    rw [h.1, ok_bind, ih h.2]

lemma FixtureRole.acceptance_le : FixtureRole.acceptance.value ≤ FixtureRole.rejection.value := by
  decide

lemma FixtureCatalog.fixtureFor_of_mem {fixture : QualificationFixture}
    (h : fixture ∈ catalog.fixtures) :
    catalog.fixtureFor fixture.toolId fixture.capability = .ok (some fixture) := by
  have hfilter := filter_key_eq catalog.keys_nodup h
  simp only [Prod.mk.injEq] at hfilter
  rw [FixtureCatalog.fixtureFor, hfilter]

/-! ### Both roles sort their assets alike -/

lemma String.append_le_append_left_iff (p a b : String) : p ++ a ≤ p ++ b ↔ a ≤ b := by
  rw [← not_lt, ← not_lt, not_iff_not, String.lt_iff_toList_lt, String.lt_iff_toList_lt,
    String.toList_append, String.toList_append]
  induction p.toList with
  | nil => rfl
  | cons c cs ih => simpa [List.cons_lt_cons_iff] using ih

namespace QualificationCall

open QualificationEvidence RecordedCase

variable {call : QualificationCall} {role : FixtureRole}

/-- The evidence of one asset. -/
def boundAsset (call : QualificationCall) (role : FixtureRole) (item : FixtureAssetInput) :
    QualificationAssetEvidence where
  logicalId := call.caseName role item.logicalId
  assetId := item.assetId
  path := item.path
  restrictedDigest := (call.restrictedAssets.lookup item.assetId).getD ""
  mediaType := item.mediaType

/-- Sorting by the name in a case is sorting by the name in the fixture. -/
lemma sortedBy_assetEvidence : sortedBy (·.logicalId) (call.assetEvidence role) =
    (sortedBy (·.logicalId) call.fixture.restrictedAssets).map (call.boundAsset role) := by
  have hmap : call.assetEvidence role =
      call.fixture.restrictedAssets.map (call.boundAsset role) := by
    rw [assetEvidence, QualificationFixture.assetSnapshots, List.map_map]
    rfl
  rw [hmap, sortedBy, sortedBy]
  refine (List.map_insertionSort (r := fun a b : FixtureAssetInput => a.logicalId ≤ b.logicalId)
    (s := fun a b : QualificationAssetEvidence => a.logicalId ≤ b.logicalId)
    (call.boundAsset role) _ ?_).symm
  intro a _ b _
  exact (String.append_le_append_left_iff _ _ _).symm

/-! ### The evidence of both roles -/

section Roles

variable {acceptance : RecordedCase call ids .acceptance}
  {rejection : RecordedCase call ids .rejection} {runA runR : FixtureRun}
  {bA bR : FixtureBehaviour}

lemma pairDigest_eq (acceptance : RecordedCase call ids .acceptance)
    (rejection : RecordedCase call ids .rejection) (h : call.fixture.Canonical)
    {pairDigest : Digest} (hdigest : call.fixture.digest ids.toFixtureIdentities = .ok pairDigest) :
    pairDigest = ids.pairDigest acceptance.snapshot rejection.snapshot := by
  rw [QualificationFixture.digest, acceptance.snapshotFor, ok_bind, if_neg h.paired,
    rejection.snapshotFor] at hdigest
  exact (Except.ok.inj hdigest).symm

lemma sharesJoint : (acceptance.evidence runA bA).SharesJoint (rejection.evidence runR bR) := by
  have hshape := acceptance.shape.trans rejection.shape.symm
  refine ⟨rfl, rfl, rfl, ?_, ?_, ?_, rfl⟩
  · show (call.fixture.outputSnapshots .acceptance).map _ =
      (call.fixture.outputSnapshots .rejection).map _
    simp only [QualificationFixture.outputSnapshots, List.map_map]
    rfl
  · show (call.fixture.inputSnapshots ids.toFixtureIdentities .acceptance acceptance.inputs).map _ =
      (call.fixture.inputSnapshots ids.toFixtureIdentities .rejection rejection.inputs).map _
    have hpairs := congrArg (List.map fun item : Identifier × String × MediaType => item.2) hshape
    simp only [QualificationFixture.inputShape, List.map_map] at hpairs
    simp only [QualificationFixture.inputSnapshots, List.map_map]
    exact hpairs
  · show (sortedBy (·.logicalId) (call.assetEvidence .acceptance)).map _ =
      (sortedBy (·.logicalId) (call.assetEvidence .rejection)).map _
    rw [sortedBy_assetEvidence, sortedBy_assetEvidence, List.map_map, List.map_map]
    rfl

lemma isComprehensiveClaim_ok (ids : QualificationIdentities) (h : call.fixture.Canonical)
    (claimId : Identifier) :
    ∃ comprehensive, isComprehensiveClaim ids.toFixtureIdentities call.fixture.capability claimId
      call.fixture.semanticJoints = .ok comprehensive := by
  obtain ⟨derived, hderived⟩ := h.claimId ids.toFixtureIdentities
  rw [isComprehensiveClaim, h.facts.joints, ok_bind]
  split_ifs
  · rw [hderived]
    exact ⟨_, rfl⟩
  · exact ⟨_, rfl⟩

lemma deriveDisposition_ok (acceptance : RecordedCase call ids .acceptance)
    (rejection : RecordedCase call ids .rejection) (runA runR : FixtureRun)
    (bA bR : FixtureBehaviour) (h : call.fixture.Canonical) : ∃ disposition,
    deriveDisposition ids call.probe [acceptance.evidence runA bA, rejection.evidence runR bR] [] =
      .ok disposition := by
  obtain ⟨first, hfirst⟩ := isComprehensiveClaim_ok ids h acceptance.claimId
  obtain ⟨second, hsecond⟩ := isComprehensiveClaim_ok ids h rejection.claimId
  have hany : ∃ any, anyIncomprehensive ids
      [acceptance.evidence runA bA, rejection.evidence runR bR] = .ok any := by
    show ∃ any, ((isComprehensiveClaim ids.toFixtureIdentities call.fixture.capability
      acceptance.claimId call.fixture.semanticJoints) >>= fun comprehensive =>
        if comprehensive then anyIncomprehensive ids [rejection.evidence runR bR] else pure true) =
          .ok any
    rw [hfirst, ok_bind]
    split_ifs
    · show ∃ any, ((isComprehensiveClaim ids.toFixtureIdentities call.fixture.capability
        rejection.claimId call.fixture.semanticJoints) >>= fun comprehensive =>
          if comprehensive then anyIncomprehensive ids [] else pure true) = .ok any
      rw [hsecond, ok_bind]
      split_ifs <;> exact ⟨_, rfl⟩
    · exact ⟨_, rfl⟩
  obtain ⟨any, hany⟩ := hany
  rw [deriveDisposition]
  split_ifs
  all_goals first | exact ⟨_, rfl⟩ | skip
  rw [hany]
  exact ⟨_, rfl⟩

/-- The assessment of the two roles, before its checks. -/
def bothRoles (acceptance : RecordedCase call ids .acceptance)
    (rejection : RecordedCase call ids .rejection) (runA runR : FixtureRun)
    (bA bR : FixtureBehaviour) (disposition : QualificationDisposition) : BackendQualification where
  probe := call.probe
  requestedCapabilities := [call.fixture.capability]
  evidence := [acceptance.evidence runA bA, rejection.evidence runR bR]
  gaps := []
  disposition := disposition

variable {disposition : QualificationDisposition}

lemma rolesOf_bothRoles :
    (bothRoles acceptance rejection runA runR bA bR disposition).rolesOf call.fixture.capability =
      [.acceptance, .rejection] := by
  have hA : (acceptance.evidence runA bA).capability = call.fixture.capability := rfl
  have hR : (rejection.evidence runR bR).capability = call.fixture.capability := rfl
  rw [BackendQualification.rolesOf, bothRoles, List.filter_cons_of_pos (by simp [hA]),
    List.filter_cons_of_pos (by simp [hR])]
  rfl

lemma covered_bothRoles :
    (bothRoles acceptance rejection runA runR bA bR disposition).covered
      call.fixture.capability := by
  rw [BackendQualification.covered, rolesOf_bothRoles]
  decide

lemma checkPartition_bothRoles (h : call.Bound ids) :
    (bothRoles acceptance rejection runA runR bA bR disposition).checkPartition = .ok ⟨⟩ := by
  have hrequested : ∀ {capability : Capability},
      capability ∈ (bothRoles acceptance rejection runA runR bA bR
        disposition).requestedCapabilities → capability = call.fixture.capability :=
    fun hmem => List.mem_singleton.mp hmem
  simp only [BackendQualification.checkPartition, raiseIf_bind_eq_ok, raiseIf_eq_ok]
  refine ⟨?_, ?_, ?_, ?_⟩
  · rw [not_not]
    intro capability hmem
    rw [hrequested hmem]
    exact h.capability
  · rintro ⟨item, hitem, hunrequested⟩
    refine hunrequested (List.mem_singleton.mpr ?_)
    rcases List.mem_cons.mp hitem with rfl | hitem
    · rfl
    · obtain rfl := List.mem_singleton.mp hitem
      rfl
  · rintro ⟨capability, hmem, -, huncovered⟩
    rw [hrequested hmem] at huncovered
    exact huncovered covered_bothRoles
  · rintro (⟨_, _, _, hgap⟩ | ⟨capability, hmem, huncovered, -⟩ | ⟨_, hgap, _⟩)
    · cases hgap
    · rw [hrequested hmem] at huncovered
      exact huncovered covered_bothRoles
    · cases hgap

/-- What holds of the evidence of either role holds of all evidence. -/
lemma forall_bothRoles {P : QualificationEvidence → Prop}
    (h : ∀ (role : FixtureRole) (c : RecordedCase call ids role) (run : FixtureRun)
      (b : FixtureBehaviour), P (c.evidence run b)) :
    ∀ item ∈ (bothRoles acceptance rejection runA runR bA bR disposition).evidence, P item := by
  intro item hitem
  rcases List.mem_cons.mp hitem with rfl | hitem
  · exact h _ acceptance runA bA
  · obtain rfl := List.mem_singleton.mp hitem
    exact h _ rejection runR bR

lemma checkBinding_bothRoles (h : call.Bound ids) (hmem : call.fixture ∈ catalog.fixtures) :
    (bothRoles acceptance rejection runA runR bA bR disposition).checkBinding ids catalog =
      .ok ⟨⟩ := by
  have hidentity : ∀ item ∈ (bothRoles acceptance rejection runA runR bA bR
      disposition).evidence, item.resolutionIdentity =
        ⟨call.installation.executableDigest, call.installation.executionClosureDigest,
          call.installation.versionOutputDigest, call.installation.executableInvocationMode,
          call.installation.deploymentRecordDigest, call.installation.modulefileDigest⟩ :=
    forall_bothRoles fun _ _ _ _ => rfl
  have hfixture := FixtureCatalog.fixtureFor_of_mem hmem
  have hcanonical : ∀ item ∈ (bothRoles acceptance rejection runA runR bA bR
      disposition).evidence, (do
        let fixture ← catalog.fixtureFor item.toolId item.capability
        let fixture ← orRaise fixture "qualification evidence differs from its canonical fixture"
        let snapshot ← fixture.snapshotFor ids.toFixtureIdentities item.role
        let digest ← fixture.digest ids.toFixtureIdentities
        raiseIf (item.fixture ≠ snapshot ∨ item.fixturePairDigest ≠ digest ∨
            item.fixture.toolId ≠ item.toolId ∨ item.fixture.capability ≠ item.capability)
          "qualification evidence differs from its canonical fixture") =
            (.ok ⟨⟩ : Except String Unit) := by
    apply forall_bothRoles
    intro role c run b
    have htool : (c.evidence run b).toolId = call.fixture.toolId := h.tool
    have hcapability : (c.evidence run b).capability = call.fixture.capability := rfl
    have hrole : (c.evidence run b).role = role := rfl
    rw [htool, hcapability, hrole, hfixture, ok_bind, orRaise, ok_bind, c.snapshotFor, ok_bind,
      c.digest, ok_bind, raiseIf_eq_ok]
    rintro (hne | hne | hne | hne)
    all_goals exact hne rfl
  simp only [BackendQualification.checkBinding, raiseIf_bind_eq_ok, not_not]
  refine ⟨?_, ?_, ?_⟩
  · rintro ⟨item, hitem, hdiffers⟩
    revert item
    apply forall_bothRoles
    intro role c run b hdiffers
    obtain ⟨htool, hvendor, hdriver⟩ := h.probed
    rcases hdiffers with hne | hne | hne | hne | hne | hne
    · exact hne htool.symm
    · exact hne hvendor.symm
    · exact hne hdriver.symm
    · exact hne rfl
    · exact hne (by rw [toolVersion_evidence h]; exact h.version.symm)
    · exact hne h.attestation.symm
  · intro item hitem other hother
    exact (hidentity item hitem).trans (hidentity other hother).symm
  · exact forM_eq_ok hcanonical

lemma paired_bothRoles : (bothRoles acceptance rejection runA runR bA bR disposition).paired
      call.fixture.capability .acceptance = some (acceptance.evidence runA bA) ∧
    (bothRoles acceptance rejection runA runR bA bR disposition).paired
      call.fixture.capability .rejection = some (rejection.evidence runR bR) := by
  have hA : (acceptance.evidence runA bA).capability = call.fixture.capability ∧
    (acceptance.evidence runA bA).role = .acceptance := ⟨rfl, rfl⟩
  have hR : (rejection.evidence runR bR).capability = call.fixture.capability ∧
    (rejection.evidence runR bR).role = .rejection := ⟨rfl, rfl⟩
  constructor
  · rw [BackendQualification.paired, bothRoles, List.find?_cons_of_pos (by simp [hA])]
  · rw [BackendQualification.paired, bothRoles, List.find?_cons_of_neg (by simp [hA]),
      List.find?_cons_of_pos (by simp [hR])]

lemma checkPair_bothRoles (h : call.Bound ids) :
    (bothRoles acceptance rejection runA runR bA bR disposition).checkPair ids
      call.fixture.capability = .ok ⟨⟩ := by
  have hA := pairDigest_eq acceptance rejection h.canonical
    acceptance.digest
  have hR := pairDigest_eq acceptance rejection h.canonical
    rejection.digest
  simp only [BackendQualification.checkPair, paired_bothRoles, orRaise, ok_bind, raiseIf_bind_eq_ok,
    raiseIf_eq_ok, not_not, not_or]
  exact ⟨sharesJoint, hA, hR⟩

lemma sortedOn_bothRoles :
    sortedOn (fun item : QualificationEvidence => toLex (item.capability.value, item.role.value))
        [acceptance.evidence runA bA, rejection.evidence runR bR] =
      [acceptance.evidence runA bA, rejection.evidence runR bR] := by
  have hle : toLex (call.fixture.capability.value, FixtureRole.acceptance.value) ≤
      toLex (call.fixture.capability.value, FixtureRole.rejection.value) :=
    Prod.Lex.toLex_le_toLex.mpr (Or.inr ⟨rfl, FixtureRole.acceptance_le⟩)
  refine List.Pairwise.insertionSort_eq (List.pairwise_pair.mpr ?_)
  exact hle

/-- The assessment of the evidence of both roles validates. -/
theorem assessment_ok (h : call.Bound ids) (hmem : call.fixture ∈ catalog.fixtures) :
    ∃ q, assessment ids catalog call.probe [call.fixture.capability]
      [acceptance.evidence runA bA, rejection.evidence runR bR] [] = .ok q := by
  obtain ⟨disposition, hdisposition⟩ := deriveDisposition_ok acceptance rejection runA runR bA bR
    h.canonical
  have hpolicy : AllSame (·.artifactPolicyDigest) (bothRoles acceptance rejection runA runR bA bR
      disposition).evidence := by
    have hall : ∀ item ∈ (bothRoles acceptance rejection runA runR bA bR disposition).evidence,
        item.artifactPolicyDigest = call.artifactStore.policyDigest :=
      forall_bothRoles fun _ _ _ _ => rfl
    intro item hitem other hother
    exact (hall item hitem).trans (hall other hother).symm
  have hvalid : (bothRoles acceptance rejection runA runR bA bR
      disposition).validatePartitionAndDisposition ids catalog = .ok ⟨⟩ := by
    have hcovered : ((bothRoles acceptance rejection runA runR bA bR
        disposition).requestedCapabilities.filter fun capability =>
          (bothRoles acceptance rejection runA runR bA bR disposition).covered capability) =
            [call.fixture.capability] := by
      rw [show (bothRoles acceptance rejection runA runR bA bR disposition).requestedCapabilities =
        [call.fixture.capability] from rfl, List.filter_cons_of_pos (by simp [covered_bothRoles])]
      rfl
    rw [BackendQualification.validatePartitionAndDisposition, checkPartition_bothRoles h, ok_bind,
      checkBinding_bothRoles h hmem, ok_bind, hcovered,
      forM_eq_ok (fun capability hmem => List.mem_singleton.mp hmem ▸ checkPair_bothRoles h),
      ok_bind]
    simp only [bind_eq_ok, raiseIf_eq_ok, exists_const]
    exact ⟨not_not.mpr hpolicy, disposition, hdisposition, not_not.mpr rfl⟩
  refine ⟨bothRoles acceptance rejection runA runR bA bR disposition, ?_⟩
  rw [assessment, hdisposition, ok_bind, BackendQualification.build]
  simp only [sortedOn_bothRoles]
  rw [raiseIf_bind_eq_ok, raiseIf_bind_eq_ok, raiseIf_bind_eq_ok]
  refine ⟨by simp, ?_, by simp, ?_⟩
  · rw [not_not]
    refine List.nodup_cons.mpr ⟨?_, List.nodup_singleton _⟩
    intro hmem
    cases (Prod.ext_iff.mp (List.mem_singleton.mp hmem)).2
  · show ((bothRoles acceptance rejection runA runR bA bR
      disposition).validatePartitionAndDisposition ids catalog >>= fun _ => _) = _
    rw [hvalid]
    rfl

end Roles

end QualificationCall

end EdaGym
