import EdaGym.Drivers.Evidence
import EdaGym.Lib.Selection
import EdaGym.Reporting.CampaignEvidence

/-!
# Backend coverage

A capability is covered by backends that pass it independently: no two of them share a family or a
deployment, there are enough of them, and every tool and vendor its contract asks for is among
them. The code searches all selections of the passing implementations for the one with the best
score, and reads the verdict off that selection.
-/

namespace EdaGym.Release

/-! ### Contracts -/

/-- `Capability`, iterated. -/
def allCapabilities : List Capability :=
  [.hwIrLowering, .rtlSimulation, .rtlLint, .cdcRdc, .formalProperty, .equivalence,
    .asicSynthesis, .staticTiming, .digitalImplementation, .powerAnalysis, .powerIntegrity,
    .parasiticExtraction, .physicalVerification, .circuitSimulation, .fpgaImplementation,
    .highLevelSynthesis, .designForTest, .cellCharacterization]

lemma mem_allCapabilities (capability : Capability) : capability ∈ allCapabilities := by
  cases capability <;> decide

/-- The part of a contract that coverage reads. -/
structure CapabilitySemanticContract where
  minimumIndependentImplementations : Nat := 1
  requiredVendors : List Vendor := []
  requiredToolIds : List Identifier := []
  minimum_bounded :
    1 ≤ minimumIndependentImplementations ∧ minimumIndependentImplementations ≤ 3 := by decide
  vendors_unique : requiredVendors.Nodup := by decide
  tools_unique : requiredToolIds.Nodup := by decide
  tools_fill : requiredToolIds ≠ [] →
    minimumIndependentImplementations ≤ requiredToolIds.length := by decide

def CapabilitySemanticContract.effectiveRequiredImplementations
    (contract : CapabilitySemanticContract) : Nat :=
  max contract.minimumIndependentImplementations
    (max contract.requiredVendors.length contract.requiredToolIds.length)

/-- `_THREE_VENDOR_CHAIN`, sorted by value. -/
def THREE_VENDOR_CHAIN : List Vendor := [.cadence, .openSource, .synopsys]

/-- Return the sole release contract for one capability. -/
def semanticContract : Capability → CapabilitySemanticContract
  | .hwIrLowering => {}
  | .rtlSimulation =>
    { minimumIndependentImplementations := 2, requiredVendors := THREE_VENDOR_CHAIN }
  | .rtlLint => {}
  | .cdcRdc => {}
  | .formalProperty => { minimumIndependentImplementations := 2 }
  | .equivalence => { minimumIndependentImplementations := 2 }
  | .asicSynthesis =>
    { minimumIndependentImplementations := 2, requiredVendors := THREE_VENDOR_CHAIN }
  | .staticTiming =>
    { minimumIndependentImplementations := 2, requiredVendors := THREE_VENDOR_CHAIN }
  | .digitalImplementation =>
    { minimumIndependentImplementations := 2, requiredVendors := THREE_VENDOR_CHAIN }
  | .powerAnalysis => {}
  | .powerIntegrity => {}
  | .parasiticExtraction => {}
  | .physicalVerification => { minimumIndependentImplementations := 2 }
  | .circuitSimulation => { minimumIndependentImplementations := 2 }
  | .fpgaImplementation =>
    { minimumIndependentImplementations := 3
      requiredToolIds := ["achronix_ace", "quartus", "vivado"] }
  | .highLevelSynthesis => {}
  | .designForTest => {}
  | .cellCharacterization => {}

def requiredBackendCount (capability : Capability) : Nat :=
  (semanticContract capability).effectiveRequiredImplementations

lemma requiredBackendCount_bounded (capability : Capability) :
    1 ≤ requiredBackendCount capability ∧ requiredBackendCount capability ≤ 3 := by
  cases capability <;> decide

/-! ### Backend evidence -/

structure BackendCapabilityEvidence where
  capability : Capability
  status : ReleaseEvidenceStatus
  implementationFamily : Option Identifier

/-- The evidence of one backend, with one result for each of its capabilities. -/
structure BackendQualificationEvidence where
  toolId : Identifier
  vendor : Vendor
  deploymentAttestationDigest : Option Digest
  capabilities : List BackendCapabilityEvidence
  capabilities_unique : (capabilities.map (·.capability)).Nodup := by decide

structure IndependentBackendImplementation where
  toolId : Identifier
  vendor : Vendor
  implementationFamily : Identifier
  deploymentAttestationDigest : Digest
deriving DecidableEq

/-! ### Coverage and its validators -/

/-- The implementations reach the number, the tools and the vendors of a contract. -/
def Covered (contract : CapabilitySemanticContract)
    (selection : List IndependentBackendImplementation) : Prop :=
  contract.effectiveRequiredImplementations ≤ selection.length ∧
    contract.requiredToolIds ⊆ selection.map (·.toolId) ∧
      contract.requiredVendors ⊆ selection.map (·.vendor)

instance (contract : CapabilitySemanticContract)
    (selection : List IndependentBackendImplementation) : Decidable (Covered contract selection) :=
  inferInstanceAs (Decidable (_ ∧ _ ∧ _))

/-- No two implementations share a family or a deployment. -/
def Independent (selection : List IndependentBackendImplementation) : Prop :=
  (selection.map (·.implementationFamily)).Nodup ∧
    (selection.map (·.deploymentAttestationDigest)).Nodup

instance (selection : List IndependentBackendImplementation) : Decidable (Independent selection) :=
  inferInstanceAs (Decidable (_ ∧ _))

/-- Derived release coverage for one logical evaluator capability. -/
structure BackendCapabilityCoverage where
  capability : Capability
  requiredToolCount : Nat
  conformantToolIds : List Identifier
  independentImplementations : List IndependentBackendImplementation
  failedToolIds : List Identifier
  unavailableToolIds : List Identifier
  status : ReleaseEvidenceStatus

/-- `normalize_tools`. -/
def normalizeTools (value : List Identifier) : Except String (List Identifier) := do
  raiseIf (¬ value.Nodup) "backend coverage tool identities must be unique"
  pure (sortedOn id value)

/-- `normalize_implementations`. -/
def normalizeImplementations (value : List IndependentBackendImplementation) :
    Except String (List IndependentBackendImplementation) := do
  raiseIf (¬ (value.map (·.toolId)).Nodup ∨ ¬ Independent value)
    "independent backend implementations require unique tools, families, and deployments"
  pure (sortedOn (·.toolId) value)

/-- The status that a selection and the failed tools of a capability give. -/
def coverageStatus (covered : Bool) (failedToolIds : List Identifier) : ReleaseEvidenceStatus :=
  if covered then .passed else if failedToolIds ≠ [] then .failed else .unavailable

namespace BackendCapabilityCoverage

variable (coverage : BackendCapabilityCoverage)

/-- `validate_coverage`. -/
def validateCoverage : Except String Unit := do
  raiseIf (Overlap coverage.conformantToolIds coverage.failedToolIds ∨
      Overlap coverage.conformantToolIds coverage.unavailableToolIds ∨
        Overlap coverage.failedToolIds coverage.unavailableToolIds)
    "backend coverage tool partitions must be disjoint"
  raiseIf (¬ coverage.independentImplementations.map (·.toolId) ⊆ coverage.conformantToolIds)
    "independent backend tools must be conformant"
  let contract := semanticContract coverage.capability
  raiseIf (coverage.requiredToolCount ≠ contract.effectiveRequiredImplementations)
    "backend coverage requirement must be policy-derived"
  raiseIf (coverage.status ≠ coverageStatus
      (decide (Covered contract coverage.independentImplementations)) coverage.failedToolIds)
    "backend coverage status must be derived from qualification pairs"

/-- `BackendCapabilityCoverage(...)`: the lists are normalised, then the whole is validated. -/
def build : Except String BackendCapabilityCoverage := do
  raiseIf (coverage.requiredToolCount < 1 ∨ 3 < coverage.requiredToolCount)
    "required_tool_count is out of range"
  let conformantToolIds ← normalizeTools coverage.conformantToolIds
  let independentImplementations ← normalizeImplementations coverage.independentImplementations
  let failedToolIds ← normalizeTools coverage.failedToolIds
  let unavailableToolIds ← normalizeTools coverage.unavailableToolIds
  let built := { coverage with conformantToolIds, independentImplementations, failedToolIds,
                               unavailableToolIds }
  built.validateCoverage
  pure built

end BackendCapabilityCoverage

/-! ### The selection -/

/-- The parts of a score in the order in which they are compared. -/
abbrev SelectionScore := ℕ ×ₗ ℕ ×ₗ ℕ ×ₗ ℕ ×ₗ List Identifier

def selectionScore (contract : CapabilitySemanticContract)
    (selection : List IndependentBackendImplementation) : SelectionScore :=
  toLex (if Covered contract selection then 1 else 0,
    toLex ((contract.requiredToolIds.filter (· ∈ selection.map (·.toolId))).length,
      toLex ((contract.requiredVendors.filter (· ∈ selection.map (·.vendor))).length,
        toLex (selection.length, selection.map (·.toolId)))))

/-- Choose the strongest deterministic set with independent lineage and deployment. -/
def selectIndependentImplementations (candidates : List IndependentBackendImplementation)
    (capability : Capability) : List IndependentBackendImplementation :=
  let ordered := sortedOn (·.toolId) candidates
  let valid := (selections ordered).filter fun selection => Independent selection
  (valid.argmax (selectionScore (semanticContract capability))).getD []

/-! ### The projection -/

/-- The results of a capability, each with its backend. -/
def matching (backends : List BackendQualificationEvidence) (capability : Capability) :
    List (BackendQualificationEvidence × BackendCapabilityEvidence) :=
  backends.flatMap fun backend =>
    (backend.capabilities.filter fun result => result.capability = capability).map fun result =>
      (backend, result)

/-- The tools whose result for a capability has a status. -/
def toolsWith (backends : List BackendQualificationEvidence) (capability : Capability)
    (status : ReleaseEvidenceStatus) : List Identifier :=
  ((matching backends capability).filter fun entry => entry.2.status = status).map (·.1.toolId)

/-- A passing implementation, when its family and its deployment are known. -/
def candidateOf (entry : BackendQualificationEvidence × BackendCapabilityEvidence) :
    Option IndependentBackendImplementation :=
  match entry.2.implementationFamily, entry.1.deploymentAttestationDigest with
  | some implementationFamily, some deploymentAttestationDigest =>
    some { toolId := entry.1.toolId, vendor := entry.1.vendor, implementationFamily,
           deploymentAttestationDigest }
  | _, _ => none

def candidatesFor (backends : List BackendQualificationEvidence) (capability : Capability) :
    List IndependentBackendImplementation :=
  ((matching backends capability).filter fun entry => entry.2.status = .passed).filterMap
    candidateOf

/-- The coverage of one capability, before its own checks. -/
def rawCoverage (backends : List BackendQualificationEvidence) (capability : Capability) :
    BackendCapabilityCoverage :=
  let independent := selectIndependentImplementations (candidatesFor backends capability) capability
  let failed := toolsWith backends capability .failed
  { capability
    requiredToolCount := requiredBackendCount capability
    conformantToolIds := toolsWith backends capability .passed
    independentImplementations := independent
    failedToolIds := failed
    unavailableToolIds := toolsWith backends capability .unavailable
    status :=
      coverageStatus (decide (Covered (semanticContract capability) independent)) failed }

/-- Derive the full capability coverage matrix from public-safe qualifications. -/
def projectBackendCoverage (backends : List BackendQualificationEvidence) :
    Except String (List BackendCapabilityCoverage) := do
  let summaries ← allCapabilities.mapM fun capability => (rawCoverage backends capability).build
  pure (sortedOn (·.capability.value) summaries)

/-! ### What coverage means -/

/-- An implementation of a capability that some backend passes. -/
def Conformant (backends : List BackendQualificationEvidence) (capability : Capability)
    (item : IndependentBackendImplementation) : Prop :=
  ∃ backend ∈ backends, ∃ result ∈ backend.capabilities,
    result.capability = capability ∧ result.status = .passed ∧
      result.implementationFamily = some item.implementationFamily ∧
        backend.deploymentAttestationDigest = some item.deploymentAttestationDigest ∧
          backend.toolId = item.toolId ∧ backend.vendor = item.vendor

/-- A set of implementations that meets a contract independently. -/
structure IndependentlyCovers (contract : CapabilitySemanticContract)
    (chosen : Finset IndependentBackendImplementation) : Prop where
  families : Set.InjOn (·.implementationFamily) (chosen : Set IndependentBackendImplementation)
  deployments :
    Set.InjOn (·.deploymentAttestationDigest) (chosen : Set IndependentBackendImplementation)
  enough : contract.effectiveRequiredImplementations ≤ chosen.card
  tools : ∀ toolId ∈ contract.requiredToolIds, ∃ item ∈ chosen, item.toolId = toolId
  vendors : ∀ vendor ∈ contract.requiredVendors, ∃ item ∈ chosen, item.vendor = vendor

section Selection

variable {contract : CapabilitySemanticContract} {capability : Capability}
  {candidates selection : List IndependentBackendImplementation}

variable {other : List IndependentBackendImplementation}

lemma Covered.congr (h : selection.Perm other) :
    Covered contract selection ↔ Covered contract other := by
  simp only [Covered, h.length_eq, List.subset_def, List.mem_map, h.mem_iff]

lemma Independent.congr
    (h : selection.Perm other) : Independent selection ↔ Independent other := by
  simp only [Independent, (h.map _).nodup_iff]

/-- A list of distinct implementations meets a contract as the set of its members does. -/
lemma independentlyCovers_toFinset (hnodup : selection.Nodup) :
    IndependentlyCovers contract selection.toFinset ↔
      Independent selection ∧ Covered contract selection := by
  have hfamilies : (selection.map (·.implementationFamily)).Nodup ↔
      Set.InjOn (·.implementationFamily) {item | item ∈ selection} :=
    List.nodup_map_iff_inj_on hnodup
  have hdeployments : (selection.map (·.deploymentAttestationDigest)).Nodup ↔
      Set.InjOn (·.deploymentAttestationDigest) {item | item ∈ selection} :=
    List.nodup_map_iff_inj_on hnodup
  have hcard : selection.toFinset.card = selection.length := List.toFinset_card_of_nodup hnodup
  rw [Independent, hfamilies, hdeployments, Covered]
  constructor
  · rintro ⟨h₁, h₂, h₃, h₄, h₅⟩
    simp only [List.coe_toFinset, List.mem_toFinset, hcard] at h₁ h₂ h₃ h₄ h₅
    exact ⟨⟨h₁, h₂⟩, h₃, fun toolId h => List.mem_map.mpr (h₄ toolId h),
      fun vendor h => List.mem_map.mpr (h₅ vendor h)⟩
  · rintro ⟨⟨h₁, h₂⟩, h₃, h₄, h₅⟩
    refine ⟨?_, ?_, by rwa [hcard], ?_, ?_⟩
    · simpa only [List.coe_toFinset] using h₁
    · simpa only [List.coe_toFinset] using h₂
    · intro toolId h
      simpa only [List.mem_toFinset, List.mem_map] using h₄ h
    · intro vendor h
      simpa only [List.mem_toFinset, List.mem_map] using h₅ h

lemma selectionScore_lt
    (h : Covered contract selection) (hother : ¬ Covered contract other) :
    selectionScore contract other < selectionScore contract selection := by
  rw [selectionScore, selectionScore, if_pos h, if_neg hother, Prod.Lex.toLex_lt_toLex]
  exact Or.inl Nat.zero_lt_one

lemma ne_nil_of_covered (h : Covered (semanticContract capability) selection) :
    selection ≠ [] := by
  rintro rfl
  have hpos := (requiredBackendCount_bounded capability).1
  rw [requiredBackendCount] at hpos
  exact absurd (le_trans hpos h.1) (by simp)

/-- The selection is made of candidates, each at most once, and is independent. -/
lemma selectIndependentImplementations_spec (candidates : List IndependentBackendImplementation)
    (capability : Capability) :
    (selectIndependentImplementations candidates capability).Sublist
        (sortedOn (·.toolId) candidates) ∧
      Independent (selectIndependentImplementations candidates capability) := by
  rw [selectIndependentImplementations]
  cases hbest : List.argmax (selectionScore (semanticContract capability))
      ((selections (sortedOn (·.toolId) candidates)).filter fun selection =>
        Independent selection) with
  | none => exact ⟨List.nil_sublist _, List.nodup_nil, List.nodup_nil⟩
  | some best =>
    have hmem := List.argmax_mem (Option.mem_def.mpr hbest)
    rw [List.mem_filter, mem_selections, decide_eq_true_eq] at hmem
    exact ⟨hmem.1.1, hmem.2⟩

/-- The search finds an independent selection that meets the contract when there is one. -/
lemma covered_selectIndependentImplementations_iff :
    Covered (semanticContract capability)
        (selectIndependentImplementations candidates capability) ↔
      ∃ selection : List IndependentBackendImplementation,
        selection.Sublist (sortedOn (·.toolId) candidates) ∧ Independent selection ∧
          Covered (semanticContract capability) selection := by
  constructor
  · intro h
    have hspec := selectIndependentImplementations_spec candidates capability
    exact ⟨_, hspec.1, hspec.2, h⟩
  · rintro ⟨selection, hsub, hindependent, hcovered⟩
    have hvalid : selection ∈ (selections (sortedOn (·.toolId) candidates)).filter
        fun selection => Independent selection := by
      rw [List.mem_filter, mem_selections, decide_eq_true_eq]
      exact ⟨⟨hsub, ne_nil_of_covered hcovered⟩, hindependent⟩
    rw [selectIndependentImplementations]
    cases hbest : List.argmax (selectionScore (semanticContract capability))
        ((selections (sortedOn (·.toolId) candidates)).filter fun selection =>
          Independent selection) with
    | none =>
      rw [List.argmax_eq_none] at hbest
      rw [hbest] at hvalid
      cases hvalid
    | some best =>
      exact (good_of_argmax (fun _ _ _ _ => selectionScore_lt) (Option.mem_def.mpr hbest)).mp
        ⟨selection, hvalid, hcovered⟩

/-- The same in terms of sets of candidates. -/
lemma covered_iff_exists_finset (hnodup : (candidates.map (·.toolId)).Nodup) :
    Covered (semanticContract capability)
        (selectIndependentImplementations candidates capability) ↔
      ∃ chosen : Finset IndependentBackendImplementation, (∀ item ∈ chosen, item ∈ candidates) ∧
        IndependentlyCovers (semanticContract capability) chosen := by
  have hperm := sortedOn_perm (fun item : IndependentBackendImplementation => item.toolId)
    candidates
  have hdistinct : (sortedOn (·.toolId) candidates).Nodup :=
    hperm.nodup_iff.mpr hnodup.of_map
  rw [covered_selectIndependentImplementations_iff]
  constructor
  · rintro ⟨selection, hsub, hindependent, hcovered⟩
    refine ⟨selection.toFinset, ?_, ?_⟩
    · intro item hitem
      exact hperm.subset (hsub.subset (List.mem_toFinset.mp hitem))
    · exact (independentlyCovers_toFinset (hdistinct.sublist hsub)).mpr ⟨hindependent, hcovered⟩
  · rintro ⟨chosen, hchosen, hcovers⟩
    -- the chosen ones, in the order of the candidates
    have hsub : ((sortedOn (·.toolId) candidates).filter (· ∈ chosen)).Sublist
        (sortedOn (·.toolId) candidates) := List.filter_sublist
    have hfinset : ((sortedOn (·.toolId) candidates).filter (· ∈ chosen)).toFinset = chosen := by
      ext item
      simp only [List.mem_toFinset, List.mem_filter, hperm.mem_iff, decide_eq_true_eq]
      exact ⟨fun h => h.2, fun h => ⟨hchosen item h, h⟩⟩
    rw [← hfinset] at hcovers
    exact ⟨_, hsub, (independentlyCovers_toFinset (hdistinct.sublist hsub)).mp hcovers⟩

lemma selectIndependentImplementations_perm {others : List IndependentBackendImplementation}
    (hnodup : (candidates.map (·.toolId)).Nodup) (h : candidates.Perm others) :
    selectIndependentImplementations candidates capability =
      selectIndependentImplementations others capability := by
  have hsorted : sortedOn (·.toolId) candidates = sortedOn (·.toolId) others :=
    sortedOn_eq_of_perm (fun a ha b hb => List.inj_on_of_nodup_map hnodup ha hb) h
  rw [selectIndependentImplementations, selectIndependentImplementations, hsorted]

end Selection

section Projection

variable {backends others : List BackendQualificationEvidence} {capability : Capability}
  {status : ReleaseEvidenceStatus}

/-! ### Results and candidates -/

lemma mem_matching {entry : BackendQualificationEvidence × BackendCapabilityEvidence} :
    entry ∈ matching backends capability ↔
      entry.1 ∈ backends ∧ entry.2 ∈ entry.1.capabilities ∧ entry.2.capability = capability := by
  simp only [matching, List.mem_flatMap, List.mem_map, List.mem_filter, decide_eq_true_eq]
  constructor
  · rintro ⟨backend, hbackend, result, ⟨hresult, hcapability⟩, rfl⟩
    exact ⟨hbackend, hresult, hcapability⟩
  · rintro ⟨hbackend, hresult, hcapability⟩
    exact ⟨_, hbackend, _, ⟨hresult, hcapability⟩, rfl⟩

/-- A tool has at most one result for a capability. -/
lemma matching_pairwise (hids : (backends.map (·.toolId)).Nodup) (capability : Capability) :
    ((matching backends capability).map (·.1.toolId)).Nodup := by
  rw [List.Nodup, List.pairwise_map, matching, List.pairwise_flatMap]
  constructor
  · intro backend _
    -- two results of one backend are for different capabilities
    rw [List.pairwise_map]
    have hunique := List.pairwise_map.mp backend.capabilities_unique
    refine (hunique.filter fun result => decide (result.capability = capability)).imp_of_mem ?_
    intro a b ha hb hne
    simp only [List.mem_filter, decide_eq_true_eq] at ha hb
    exact absurd (ha.2.trans hb.2.symm) hne
  · refine (List.pairwise_map.mp hids).imp ?_
    intro a b hne x hx y hy
    obtain ⟨_, _, rfl⟩ := List.mem_map.mp hx
    obtain ⟨_, _, rfl⟩ := List.mem_map.mp hy
    exact hne

lemma mem_toolsWith {toolId : Identifier} :
    toolId ∈ toolsWith backends capability status ↔
      ∃ entry ∈ matching backends capability, entry.2.status = status ∧
        entry.1.toolId = toolId := by
  simp only [toolsWith, List.mem_map, List.mem_filter, decide_eq_true_eq, and_assoc]

lemma toolsWith_nodup (hids : (backends.map (·.toolId)).Nodup) :
    (toolsWith backends capability status).Nodup :=
  (matching_pairwise hids capability).sublist (List.filter_sublist.map _)

/-- A tool has one status for a capability. -/
lemma status_unique (hids : (backends.map (·.toolId)).Nodup) {status' : ReleaseEvidenceStatus}
    {toolId : Identifier} (h : toolId ∈ toolsWith backends capability status)
    (h' : toolId ∈ toolsWith backends capability status') : status = status' := by
  obtain ⟨entry, hentry, rfl, rfl⟩ := mem_toolsWith.mp h
  obtain ⟨entry', hentry', rfl, hsame⟩ := mem_toolsWith.mp h'
  rw [List.inj_on_of_nodup_map (matching_pairwise hids capability) hentry' hentry hsame]

lemma not_overlap_toolsWith (hids : (backends.map (·.toolId)).Nodup)
    {status' : ReleaseEvidenceStatus} (hne : status ≠ status') :
    ¬ Overlap (toolsWith backends capability status) (toolsWith backends capability status') :=
  fun ⟨_, h, h'⟩ => hne (status_unique hids h h')

lemma candidateOf_eq_some {entry : BackendQualificationEvidence × BackendCapabilityEvidence}
    {item : IndependentBackendImplementation} :
    candidateOf entry = some item ↔
      entry.2.implementationFamily = some item.implementationFamily ∧
        entry.1.deploymentAttestationDigest = some item.deploymentAttestationDigest ∧
          entry.1.toolId = item.toolId ∧ entry.1.vendor = item.vendor := by
  obtain ⟨backend, result⟩ := entry
  obtain ⟨toolId, vendor, family, deployment⟩ := item
  rw [candidateOf]
  cases result.implementationFamily <;> cases backend.deploymentAttestationDigest <;>
    simp only [reduceCtorEq, Option.some.injEq, IndependentBackendImplementation.mk.injEq,
      false_and, and_false]
  tauto

lemma mem_candidatesFor {item : IndependentBackendImplementation} :
    item ∈ candidatesFor backends capability ↔ Conformant backends capability item := by
  simp only [candidatesFor, List.mem_filterMap, List.mem_filter, mem_matching, decide_eq_true_eq,
    candidateOf_eq_some]
  constructor
  · rintro ⟨⟨backend, result⟩, ⟨⟨hbackend, hresult, hcapability⟩, hstatus⟩, hitem⟩
    exact ⟨backend, hbackend, result, hresult, hcapability, hstatus, hitem⟩
  · rintro ⟨backend, hbackend, result, hresult, hcapability, hstatus, hitem⟩
    exact ⟨(backend, result), ⟨⟨hbackend, hresult, hcapability⟩, hstatus⟩, hitem⟩

lemma toolIds_filterMap_candidateOf
    (entries : List (BackendQualificationEvidence × BackendCapabilityEvidence)) :
    ((entries.filterMap candidateOf).map (·.toolId)).Sublist (entries.map (·.1.toolId)) := by
  induction entries with
  | nil => exact List.Sublist.slnil
  | cons entry entries ih =>
    rw [List.map_cons]
    cases h : candidateOf entry with
    | none =>
      rw [List.filterMap_cons_none h]
      exact ih.cons _
    | some item =>
      rw [List.filterMap_cons_some h, List.map_cons, (candidateOf_eq_some.mp h).2.2.1]
      exact ih.cons_cons _

lemma toolIds_candidatesFor :
    ((candidatesFor backends capability).map (·.toolId)).Sublist
      (toolsWith backends capability .passed) :=
  toolIds_filterMap_candidateOf _

lemma candidatesFor_nodup (hids : (backends.map (·.toolId)).Nodup) :
    ((candidatesFor backends capability).map (·.toolId)).Nodup :=
  (toolsWith_nodup hids).sublist toolIds_candidatesFor

/-! ### The validators accept what is derived -/

/-- The coverage that the constructor returns. -/
def coverageFor (backends : List BackendQualificationEvidence) (capability : Capability) :
    BackendCapabilityCoverage :=
  let raw := rawCoverage backends capability
  { raw with
    conformantToolIds := sortedOn id raw.conformantToolIds
    independentImplementations := sortedOn (·.toolId) raw.independentImplementations
    failedToolIds := sortedOn id raw.failedToolIds
    unavailableToolIds := sortedOn id raw.unavailableToolIds }

lemma overlap_sortedOn {xs ys : List Identifier} :
    Overlap (sortedOn id xs) (sortedOn id ys) ↔ Overlap xs ys := by
  simp only [Overlap, (sortedOn_perm id xs).mem_iff, (sortedOn_perm id ys).mem_iff]

lemma sortedOn_ne_nil {xs : List Identifier} : sortedOn id xs ≠ [] ↔ xs ≠ [] := by
  rw [← List.length_pos_iff, ← List.length_pos_iff, (sortedOn_perm id xs).length_eq]

lemma coverageStatus_sortedOn (covered : Bool) (failed : List Identifier) :
    coverageStatus covered (sortedOn id failed) = coverageStatus covered failed := by
  simp only [coverageStatus, sortedOn_ne_nil]

lemma normalizeTools_eq_ok {value : List Identifier} (h : value.Nodup) :
    normalizeTools value = .ok (sortedOn id value) := by
  rw [normalizeTools, raiseIf_bind_eq_ok]
  exact ⟨not_not.mpr h, rfl⟩

lemma normalizeImplementations_eq_ok {value : List IndependentBackendImplementation}
    (htools : (value.map (·.toolId)).Nodup) (hindependent : Independent value) :
    normalizeImplementations value = .ok (sortedOn (·.toolId) value) := by
  rw [normalizeImplementations, raiseIf_bind_eq_ok]
  refine ⟨?_, rfl⟩
  rw [not_or, not_not, not_not]
  exact ⟨htools, hindependent⟩

lemma validateCoverage_coverageFor (hids : (backends.map (·.toolId)).Nodup) :
    (coverageFor backends capability).validateCoverage = .ok ⟨⟩ := by
  have hselected := selectIndependentImplementations_spec (candidatesFor backends capability)
    capability
  have hperm := sortedOn_perm (fun item : IndependentBackendImplementation => item.toolId)
    (selectIndependentImplementations (candidatesFor backends capability) capability)
  refine raiseIf_bind_eq_ok.mpr ⟨?_, raiseIf_bind_eq_ok.mpr ⟨?_, raiseIf_bind_eq_ok.mpr
    ⟨not_not.mpr rfl, raiseIf_eq_ok.mpr (not_not.mpr ?_)⟩⟩⟩
  · simp only [coverageFor, rawCoverage, overlap_sortedOn, not_or]
    exact ⟨not_overlap_toolsWith hids (by decide), not_overlap_toolsWith hids (by decide),
      not_overlap_toolsWith hids (by decide)⟩
  · rw [not_not]
    intro toolId h
    obtain ⟨item, hitem, rfl⟩ := List.mem_map.mp h
    have hcandidate := (sortedOn_perm _ _).subset (hselected.1.subset (hperm.subset hitem))
    exact (sortedOn_perm id _).symm.subset
      (toolIds_candidatesFor.subset (List.mem_map_of_mem hcandidate))
  · simp only [coverageFor, rawCoverage, coverageStatus_sortedOn, Covered.congr hperm]

lemma build_rawCoverage (hids : (backends.map (·.toolId)).Nodup) (capability : Capability) :
    (rawCoverage backends capability).build = .ok (coverageFor backends capability) := by
  have hselected := selectIndependentImplementations_spec (candidatesFor backends capability)
    capability
  have htools : ((selectIndependentImplementations (candidatesFor backends capability)
      capability).map (·.toolId)).Nodup := by
    refine List.Nodup.sublist (hselected.1.map _) ?_
    exact ((sortedOn_perm _ _).map _).nodup_iff.mpr (candidatesFor_nodup hids)
  have hbounded := requiredBackendCount_bounded capability
  refine raiseIf_bind_eq_ok.mpr ⟨by simp only [rawCoverage]; omega, ?_⟩
  simp only [rawCoverage, normalizeTools_eq_ok (toolsWith_nodup hids),
    normalizeImplementations_eq_ok htools hselected.2, ok_bind]
  exact bind_eq_ok.mpr ⟨⟨⟩, validateCoverage_coverageFor hids, rfl⟩

/-! ### Coverage is exact -/

lemma projectBackendCoverage_eq (hids : (backends.map (·.toolId)).Nodup) :
    projectBackendCoverage backends =
      .ok (sortedOn (·.capability.value) (allCapabilities.map (coverageFor backends))) := by
  have hbuilt : allCapabilities.mapM (fun capability => (rawCoverage backends capability).build) =
      .ok (allCapabilities.map (coverageFor backends)) := by
    rw [mapM_eq_ok_iff, List.forall₂_map_right_iff, List.forall₂_same]
    exact fun capability _ => build_rawCoverage hids capability
  rw [projectBackendCoverage, hbuilt]
  rfl

lemma passed_iff (capability : Capability) : (coverageFor backends capability).status = .passed ↔
    Covered (semanticContract capability)
      (selectIndependentImplementations (candidatesFor backends capability) capability) := by
  simp only [coverageFor, rawCoverage, coverageStatus]
  by_cases h : Covered (semanticContract capability)
      (selectIndependentImplementations (candidatesFor backends capability) capability)
  · simp only [h, decide_true, if_true]
  · simp only [h, decide_false, Bool.false_eq_true, if_false, iff_false]
    split_ifs <;> decide

/-- The status of a capability says whether some set of conformant implementations covers it. -/
lemma passed_iff_exists (hids : (backends.map (·.toolId)).Nodup) (capability : Capability) :
    (coverageFor backends capability).status = .passed ↔
      ∃ chosen : Finset IndependentBackendImplementation,
        (∀ item ∈ chosen, Conformant backends capability item) ∧
          IndependentlyCovers (semanticContract capability) chosen := by
  simp only [passed_iff, covered_iff_exists_finset (candidatesFor_nodup hids), mem_candidatesFor]

/-- What is reported for a passing capability is such a set. -/
lemma reported_covers (hids : (backends.map (·.toolId)).Nodup) {capability : Capability}
    (h : (coverageFor backends capability).status = .passed) :
    (∀ item ∈ (coverageFor backends capability).independentImplementations.toFinset,
        Conformant backends capability item) ∧
      IndependentlyCovers (semanticContract capability)
        (coverageFor backends capability).independentImplementations.toFinset := by
  have hspec := selectIndependentImplementations_spec (candidatesFor backends capability)
    capability
  have hperm := sortedOn_perm (fun item : IndependentBackendImplementation => item.toolId)
    (selectIndependentImplementations (candidatesFor backends capability) capability)
  have hsorted := sortedOn_perm (fun item : IndependentBackendImplementation => item.toolId)
    (candidatesFor backends capability)
  have hnodup : (coverageFor backends capability).independentImplementations.Nodup := by
    refine hperm.nodup_iff.mpr (List.Nodup.sublist hspec.1 (hsorted.nodup_iff.mpr ?_))
    exact (candidatesFor_nodup hids).of_map
  constructor
  · intro item hitem
    have hselected := hperm.subset (List.mem_toFinset.mp hitem)
    exact mem_candidatesFor.mp (hsorted.subset (hspec.1.subset hselected))
  · refine (independentlyCovers_toFinset hnodup).mpr ⟨?_, ?_⟩
    · exact (Independent.congr hperm).mpr hspec.2
    · exact (Covered.congr hperm).mpr ((passed_iff capability).mp h)

lemma coverageFor_perm (hids : (backends.map (·.toolId)).Nodup) (h : others.Perm backends)
    (capability : Capability) :
    coverageFor others capability = coverageFor backends capability := by
  have hmatching : (matching others capability).Perm (matching backends capability) :=
    h.flatMap_right _
  have htools : ∀ status, sortedOn id (toolsWith others capability status) =
      sortedOn id (toolsWith backends capability status) := by
    intro status
    exact sortedOn_eq_of_perm (fun _ _ _ _ hab => hab) ((hmatching.filter _).map _)
  have hcandidates : (candidatesFor others capability).Perm (candidatesFor backends capability) :=
    (hmatching.filter _).filterMap _
  have hselected := @selectIndependentImplementations_perm capability _ _
    (candidatesFor_nodup hids) hcandidates.symm
  have hstatus : ∀ covered, coverageStatus covered (toolsWith others capability .failed) =
      coverageStatus covered (toolsWith backends capability .failed) := by
    intro covered
    rw [← coverageStatus_sortedOn, htools, coverageStatus_sortedOn]
  simp only [coverageFor, rawCoverage, htools, ← hselected, hstatus]

/-- For backends with distinct tool identities the projection returns, one coverage for each
capability, whatever the order of the backends. A capability passes exactly when some set of its
conformant implementations covers it; the reported set is one; and more backends leave a passing
capability passing. -/
theorem backend_coverage_exact (hids : (backends.map (·.toolId)).Nodup) :
    ∃ summaries, projectBackendCoverage backends = .ok summaries ∧
      (∀ capability, ∃! coverage, coverage ∈ summaries ∧ coverage.capability = capability) ∧
      (∀ coverage ∈ summaries,
        (coverage.status = .passed ↔ ∃ chosen : Finset IndependentBackendImplementation,
          (∀ item ∈ chosen, Conformant backends coverage.capability item) ∧
            IndependentlyCovers (semanticContract coverage.capability) chosen) ∧
        (coverage.status = .passed →
          (∀ item ∈ coverage.independentImplementations.toFinset,
              Conformant backends coverage.capability item) ∧
            IndependentlyCovers (semanticContract coverage.capability)
              coverage.independentImplementations.toFinset)) ∧
      (∀ others : List BackendQualificationEvidence, others.Perm backends →
        projectBackendCoverage others = .ok summaries) ∧
      ∀ further : List BackendQualificationEvidence,
        ((backends ++ further).map (·.toolId)).Nodup →
          ∃ extended, projectBackendCoverage (backends ++ further) = .ok extended ∧
            ∀ coverage ∈ summaries, coverage.status = .passed →
              ∀ coverage' ∈ extended, coverage'.capability = coverage.capability →
                coverage'.status = .passed := by
  have hmem : ∀ (backends : List BackendQualificationEvidence) coverage,
      coverage ∈ sortedOn (·.capability.value) (allCapabilities.map (coverageFor backends)) ↔
        coverage = coverageFor backends coverage.capability := by
    intro backends coverage
    rw [(sortedOn_perm _ _).mem_iff, List.mem_map]
    constructor
    · rintro ⟨capability, _, rfl⟩
      rfl
    · exact fun h => ⟨coverage.capability, mem_allCapabilities _, h.symm⟩
  refine ⟨_, projectBackendCoverage_eq hids, ?_, ?_, ?_, ?_⟩
  · intro capability
    refine ⟨coverageFor backends capability, ⟨(hmem _ _).mpr rfl, rfl⟩, ?_⟩
    rintro coverage ⟨hcoverage, rfl⟩
    exact (hmem _ _).mp hcoverage
  · intro coverage hcoverage
    rw [(hmem _ _).mp hcoverage]
    exact ⟨passed_iff_exists hids _, reported_covers hids⟩
  · intro others h
    have hothers : (others.map (·.toolId)).Nodup := (h.map _).nodup_iff.mpr hids
    rw [projectBackendCoverage_eq hothers, funext (coverageFor_perm hids h)]
  · intro further hfurther
    refine ⟨_, projectBackendCoverage_eq hfurther, ?_⟩
    intro coverage hcoverage hpassed coverage' hcoverage' hsame
    rw [(hmem _ _).mp hcoverage', hsame, passed_iff_exists hfurther]
    rw [(hmem _ _).mp hcoverage, passed_iff_exists hids] at hpassed
    -- the set that covers the capability is still there
    obtain ⟨chosen, hchosen, hcovers⟩ := hpassed
    refine ⟨chosen, fun item hitem => ?_, hcovers⟩
    obtain ⟨backend, hbackend, hresult⟩ := hchosen item hitem
    exact ⟨backend, List.mem_append_left further hbackend, hresult⟩

/-- A prover that passes, of a family and on a deployment. -/
def provingBackend (toolId family deployment : String) : BackendQualificationEvidence where
  toolId := toolId
  vendor := .openSource
  deploymentAttestationDigest := some deployment
  capabilities := [⟨.formalProperty, .passed, some family⟩]
  capabilities_unique := List.nodup_singleton _

/-- The first shares its family with the second and its deployment with the third. -/
def provingBackends : List BackendQualificationEvidence :=
  [provingBackend "alpha" "f0" "sha256:d0", provingBackend "beta" "f0" "sha256:d1",
    provingBackend "gamma" "f1" "sha256:d0"]

def independentProvers : Finset IndependentBackendImplementation :=
  {⟨"beta", .openSource, "f0", "sha256:d1"⟩, ⟨"gamma", .openSource, "f1", "sha256:d0"⟩}

theorem provingBackends_covered :
    ∃ summaries, projectBackendCoverage provingBackends = .ok summaries ∧
      projectBackendCoverage provingBackends.reverse = .ok summaries ∧
      ∃ coverage ∈ summaries, coverage.capability = .formalProperty ∧
        coverage.status = .passed := by
  obtain ⟨summaries, hok, hall, hexact, hperm, -⟩ :=
    @backend_coverage_exact provingBackends (by decide)
  obtain ⟨coverage, ⟨hmem, hcapability⟩, -⟩ := hall .formalProperty
  refine ⟨summaries, hok, hperm _ (List.reverse_perm _), coverage, hmem, hcapability,
    (hexact coverage hmem).1.mpr ?_⟩
  rw [hcapability]
  have hapart : ∀ item ∈ independentProvers, ∀ other ∈ independentProvers,
      item.implementationFamily = other.implementationFamily ∨
        item.deploymentAttestationDigest = other.deploymentAttestationDigest → item = other := by
    decide
  refine ⟨independentProvers, ?_, ?_⟩
  · intro item hitem
    rcases Finset.mem_insert.mp hitem with rfl | hitem
    · exact ⟨provingBackend "beta" "f0" "sha256:d1", by simp [provingBackends], _,
        List.mem_cons_self, rfl, rfl, rfl, rfl, rfl, rfl⟩
    · obtain rfl := Finset.mem_singleton.mp hitem
      exact ⟨provingBackend "gamma" "f1" "sha256:d0", by simp [provingBackends], _,
        List.mem_cons_self, rfl, rfl, rfl, rfl, rfl, rfl⟩
  · exact {
      families := fun item hitem other hother h => hapart item hitem other hother (Or.inl h)
      deployments := fun item hitem other hother h => hapart item hitem other hother (Or.inr h)
      enough := by decide
      tools := by simp [semanticContract]
      vendors := by simp [semanticContract] }

end Projection

end EdaGym.Release
