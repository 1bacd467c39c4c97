import EdaGym.Artifacts.SecretPatterns
import EdaGym.Artifacts.StoreRun
import EdaGym.Drivers.Assessment

/-!
# Qualification evidence is a record

Under which behaviours the execution of a canonical fixture leaves a record, and what the record
says. A tool that outlives its time-out and then exits by itself with the expected status, before
it is killed, leaves none.
-/

namespace EdaGym

open QualificationCall

/-- A role of a canonical fixture is recorded exactly when its behaviour can be: no mounts and no
asset are lost before a command, no killed command has the expected status, a change noticed after
a command leaves it, and the store admits what is put. The records of both roles make a valid
assessment. -/
theorem qualification_recorded [ContentRules] {ids : QualificationIdentities}
    {catalog : FixtureCatalog}
    {call : QualificationCall} (h : call.Bound ids) (hmem : call.fixture ∈ catalog.fixtures) :
    (∀ role b, (∃ e, call.executeFixture ids role b = .ok e ∧ Records call ids role b e) ↔
      call.Recordable role b) ∧
    ∀ (b : FixtureRole → FixtureBehaviour) (acceptance rejection : QualificationEvidence),
      call.executeFixture ids .acceptance (b .acceptance) = .ok acceptance →
        call.executeFixture ids .rejection (b .rejection) = .ok rejection →
          ∃ q, assessment ids catalog call.probe [call.fixture.capability]
            [acceptance, rejection] [] = .ok q := by
  constructor
  · intro role b
    exact exists_evidence_iff h role b fun _ hrecords => hrecords
  · intro b acceptance rejection hacceptance hrejection
    obtain ⟨cA⟩ := h.recordedCase .acceptance
    obtain ⟨cR⟩ := h.recordedCase .rejection
    obtain ⟨runA, rfl⟩ := evidence_of_executed h cA hacceptance
    obtain ⟨runR, rfl⟩ := evidence_of_executed h cR hrejection
    exact assessment_ok h hmem

/-! ### A lint fixture -/

section LintFixture

local instance lintRules : ContentRules := secretPatterns

def lintInput (content : Bytes) : FixtureInput where
  logicalId := "design"
  path := "design.v"
  content := content

/-- One command, one input and a parser that accepts what it is given. -/
def lintFixture : QualificationFixture where
  toolId := "verilator"
  capability := .rtlLint
  inputs := [lintInput [1]]
  invocations := [.tool ["--lint-only", "design.v"]]
  outputs := []
  parser := ⟨fun _ => .ok true, fun _ => .ok none, "parser"⟩
  rejectionInputs := [lintInput [2]]
  rejectionReason := some .ruleViolation

def lintIds : QualificationIdentities where
  digestBytes := fun bytes => if bytes = [1] then "one" else "other"
  partialClaimDigest := fun _ _ => "partial"
  requiredJoints := fun _ => ["rtl.lint.style"]
  comprehensiveClaimId := fun _ => "comprehensive"
  acceptanceDigest := fun _ => "acceptance"
  pairDigest := fun _ _ => "pair"
  probeDigest := fun _ => "probe"
  attestationDigest := fun _ => "attestation"

def lintDefinition : BackendDefinition := ⟨"verilator", .openSource, "driver"⟩

def lintCall : QualificationCall where
  fixture := lintFixture
  definition := lintDefinition
  probe := ⟨"verilator", .openSource, [.rtlLint], .invocable, some "5.0", some "attestation",
    "driver"⟩
  installation :=
    { definition := lintDefinition
      versionLabel := "5.0"
      modulefileDigest := none
      versionOutputDigest := "version"
      deploymentRecordDigest := none
      executableDigest := "executable"
      executionClosureDigest := "closure"
      executableInvocationMode := .trustedPath
      siteContainerRuntime := false
      rootlessImageRuntime := none }
  artifactStore := smallStore 9999
  artifactDisclosure := internalDisclosure
  resourceGrant := ⟨10, 60⟩
  licenseAuthorization := none
  restrictedAssets := []
  deploymentConfiguration := none

lemma lintFixture_canonical : lintFixture.Canonical := by
  refine ⟨rfl, by decide, ?_⟩
  rintro localId hlocal ⟨index, stream, hreserved⟩
  obtain rfl : localId = "design" := by simpa [QualificationFixture.localIds, lintFixture,
    lintInput] using hlocal
  have hhead : ∀ suffix, "design" ≠ commandLog index suffix := by
    intro suffix heq
    have hchars := congrArg (fun s : String => s.toList.head?) heq
    simp [commandLog] at hchars
  rcases hreserved with heq | heq
  · exact hhead _ heq
  · exact hhead _ heq

def lintCatalog : FixtureCatalog where
  fixtures := [lintFixture]
  keys_nodup := by decide
  canonical := fun _ hmem => List.mem_singleton.mp hmem ▸ lintFixture_canonical

lemma lintCall_bound : lintCall.Bound lintIds where
  canonical := lintFixture_canonical
  tool := rfl
  definition := rfl
  version := rfl
  attestation := rfl
  probed := ⟨rfl, rfl, rfl⟩
  capability := List.mem_singleton_self _
  admitted := rfl
  assets := by decide
  siteContainer := by decide
  runtime := by decide
  manifest := fun _ h => by cases h
  license := by decide
  disclosure := fun h => absurd rfl h
  receipt := fun _ h => by cases h

/-- A command that runs to the given end. -/
def lintCommand (timedOut : Bool) (exitCode : Int) : CommandBehaviour where
  closureBefore := true
  deploymentBefore := true
  assetsBefore := true
  executable := true
  trusted := true
  mountError := none
  spawned := true
  timedOut := timedOut
  exitCode := exitCode
  stdout := utf8 "%Error"
  stderr := []
  closureAfter := true
  deploymentAfter := true
  assetsAfter := true

def lintBehaviour (timedOut : Bool) (exitCode : Int) : FixtureBehaviour where
  assetsMaterialized := true
  command := fun _ => lintCommand timedOut exitCode
  files := []
  recordedAt := 0

lemma lintCommand_reaped (timedOut : Bool) (exitCode : Int) (invocation : FixtureInvocation) :
    lintCall.Reaped invocation (lintCommand timedOut exitCode) :=
  ⟨⟨fun h => absurd h.2.symm Bool.false_ne_true, rfl, fun _ _ => rfl⟩, rfl, rfl⟩

lemma lintCall_admits {content : Bytes}
    (h : (ContentAddressedStore.scanChunks false ContentAddressedStore.startScanners
      (fileChunks content)).isOk = true) : lintCall.AdmitsEvidence (fileChunks content) := by
  refine ⟨by decide, ?_, rfl⟩
  cases hscan : ContentAddressedStore.scanChunks false ContentAddressedStore.startScanners
      (fileChunks content) with
  | error e =>
    rw [hscan] at h
    cases h
  | ok scanners => exact ⟨scanners, hscan⟩

/-- A tool that fails in time is recorded. -/
lemma lintBehaviour_recordable : lintCall.Recordable .acceptance (lintBehaviour false 1) := by
  refine ⟨⟨Or.inl rfl, (fun _ h => (by cases h)), ?_, (fun _ h => (by cases h)),
    fun _ h => (by cases h)⟩, ⟨?_, fun h => (by cases h)⟩, ?_⟩
  · intro inputs hinputs source hsource
    obtain rfl : [lintInput [1]] = inputs := Except.ok.inj hinputs
    obtain rfl := List.mem_singleton.mp hsource
    exact lintCall_admits (by decide +kernel)
  · rintro log ⟨index, invocation, expected, -, -, -, hlogs⟩
    rcases hlogs with ⟨-, rfl | rfl⟩ | ⟨hreaped, -⟩
    · show lintCall.AdmitsEvidence (fileChunks (utf8 "%Error"))
      exact lintCall_admits (by decide +kernel)
    · show lintCall.AdmitsEvidence (fileChunks [])
      exact lintCall_admits (by decide +kernel)
    · exact absurd (lintCommand_reaped false 1 invocation) hreaped
  intro index invocation expected _ _ _
  refine ⟨fun _ => rfl, fun _ htimed => absurd htimed Bool.false_ne_true, ?_⟩
  rintro - - (hchanged | hchanged)
  · exact absurd hchanged.2.symm Bool.false_ne_true
  · exact absurd hchanged.symm Bool.false_ne_true

theorem qualification_recorded_lint : ∃ e,
    lintCall.executeFixture lintIds .acceptance (lintBehaviour false 1) = .ok e ∧
      Records lintCall lintIds .acceptance (lintBehaviour false 1) e :=
  ((qualification_recorded lintCall_bound
    (show lintCall.fixture ∈ lintCatalog.fixtures from List.mem_singleton_self _)).1
      .acceptance _).mpr lintBehaviour_recordable

/-- The tool exits by itself with the expected status after the time-out and before the kill: the
execution raises, and nothing records it. -/
theorem qualification_lost_after_timeout :
    lintCall.Bound lintIds ∧ lintCall.fixture ∈ lintCatalog.fixtures ∧
      ¬ ∃ e, lintCall.executeFixture lintIds .acceptance (lintBehaviour true 0) = .ok e := by
  refine ⟨lintCall_bound, List.mem_singleton_self _, ?_⟩
  rw [executes_iff lintCall_bound]
  intro hrecordable
  have hat := hrecordable.commands 0 _ 0 rfl rfl fun j hj => absurd hj (Nat.not_lt_zero j)
  exact hat.killed (lintCommand_reaped true 0 _) rfl rfl

end LintFixture

end EdaGym
