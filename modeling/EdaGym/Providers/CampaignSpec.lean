import EdaGym.Providers.CampaignReport
import EdaGym.Providers.TrialAdmission

/-!
# Model sets and paid campaign envelopes

A document is checked and brought into its normal form when it is built and again each time it is
read back. `validate` does both; what it returns it leaves alone. Lexical patterns of the texts are
not part of the model, nor are the fields whose type has one value.
-/

namespace EdaGym

/-! ### Validators -/

/-- What a validator returns on some input. -/
def Accepted {ε α : Type} (validate : α → Except ε α) (x : α) : Prop := ∃ raw, validate raw = .ok x

def normalizeUnique (message : String) (xs : List String) : Except CampaignError (List String) := do
  raiseIf (¬ xs.Nodup) (.valueError message)
  return sortedStrings xs

/-- A tuple field with `min_length=1`. -/
def requireNonempty {α : Type} (xs : List α) : Except CampaignError Unit :=
  raiseIf (xs.length = 0) (.valueError "Tuple should have at least 1 item after validation")

variable {xs ys : List String} {message : String}

lemma normalizeUnique_eq_ok :
    normalizeUnique message xs = .ok ys ↔ xs.Nodup ∧ sortedStrings xs = ys := by
  simp only [normalizeUnique, bind_eq_ok, raiseIf_eq_ok, not_not, exists_const, pure_eq_ok]

lemma sortedStrings_sortedStrings (xs : List String) :
    sortedStrings (sortedStrings xs) = sortedStrings xs :=
  sortedStrings_eq_of_perm (sortedStrings_perm xs)

lemma normalizeUnique_again
    (h : normalizeUnique message xs = .ok ys) : normalizeUnique message ys = .ok ys := by
  obtain ⟨hnodup, rfl⟩ := normalizeUnique_eq_ok.mp h
  exact normalizeUnique_eq_ok.mpr
    ⟨(sortedStrings_perm xs).nodup_iff.mpr hnodup, sortedStrings_sortedStrings xs⟩

lemma normalizeUnique_nodup (h : normalizeUnique message xs = .ok ys) : ys.Nodup := by
  obtain ⟨hnodup, rfl⟩ := normalizeUnique_eq_ok.mp h
  exact (sortedStrings_perm xs).nodup_iff.mpr hnodup

lemma normalizeUnique_length (h : normalizeUnique message xs = .ok ys) : ys.length = xs.length := by
  obtain ⟨-, rfl⟩ := normalizeUnique_eq_ok.mp h
  exact (sortedStrings_perm xs).length_eq

namespace Schedule

/-! ### Routes -/

inductive FeatureSupport
  | supported | unsupported | unknown
deriving DecidableEq, Repr

/-- What the single paid canary of a route observed. -/
structure RouteQualification where
  reasoningControl : FeatureSupport
  requestedServiceTier : Option ServiceTierLabel := none
  providerReportedServiceTier : Option ServiceTierLabel := none
  observedInputTokenFloor : Nat := 0
  canaryToolSchemaDigest : Digest
  canaryEvidenceDigest : Digest
deriving DecidableEq

structure ModelRoute extends EdaGym.ModelRoute where
  qualification : RouteQualification
  providerAttestationDigest : Option Digest := none
deriving DecidableEq

lemma sortedBy_ne_nil {α : Type} {key : α → String} {xs : List α} (h : xs ≠ []) :
    sortedBy key xs ≠ [] := by
  intro hnil
  have hperm := sortedBy_perm key xs
  rw [hnil] at hperm
  exact h hperm.symm.eq_nil

def ModelRoute.validate (raw : ModelRoute) : Except CampaignError ModelRoute := do
  raiseIf (¬ raw.categories.Nodup) (.valueError "model route categories must be unique")
  return { raw with
    categories := sortedBy ModelCategory.value raw.categories
    categories_ne_nil := sortedBy_ne_nil raw.categories_ne_nil }

inductive RouteExclusionReason
  | unavailable | authenticationRejected | protocolIncompatible | toolCallUnavailable
  | structuredOutputUnavailable | usageUnavailable | routeRemapped | probeBudgetExhausted
deriving DecidableEq, Repr

structure ExcludedRoute where
  requestedModel : ModelLabel
  reason : RouteExclusionReason
  evidenceDigest : Digest
deriving DecidableEq

inductive CategoryExclusionReason
  | noDiscoveredRoute | noQualifiedRoute | probeBudgetExhausted
deriving DecidableEq, Repr

structure UncoveredCategory where
  category : ModelCategory
  reason : CategoryExclusionReason
  evidenceDigest : Digest
deriving DecidableEq

/-- Frozen, capability-tested routes. -/
structure ModelSetManifest where
  providerConfigDigest : Digest
  discoveryDigest : Digest
  resolvedOn : String
  routes : List ModelRoute
  exclusions : List ExcludedRoute := []
  uncoveredCategories : List UncoveredCategory := []
deriving DecidableEq

def REQUIRED_MODEL_CATEGORIES : List ModelCategory :=
  [.frontierReasoning, .codingAgent, .balanced, .highThroughput]

def ModelSetManifest.validateRouteSet (modelSet : ModelSetManifest) :
    Except CampaignError Unit := do
  let requested := modelSet.routes.map fun route => route.requestedModel
  let excluded := modelSet.exclusions.map ExcludedRoute.requestedModel
  let covered := modelSet.routes.flatMap fun route => route.categories
  let uncovered := modelSet.uncoveredCategories.map UncoveredCategory.category
  raiseIf (¬ (modelSet.routes.map fun route => route.routeId).Nodup)
    (.valueError "model route identifiers must be unique")
  raiseIf (¬ requested.Nodup) (.valueError "requested model labels must be unique")
  raiseIf (¬ excluded.Nodup) (.valueError "excluded model labels must be unique")
  raiseIf (∃ label ∈ requested, label ∈ excluded)
    (.valueError "a model label cannot be both qualified and excluded")
  raiseIf (¬ uncovered.Nodup) (.valueError "each uncovered model category may be recorded once")
  raiseIf (∃ category ∈ uncovered, category ∉ REQUIRED_MODEL_CATEGORIES)
    (.valueError "only required model categories need exclusion evidence")
  raiseIf (∃ category ∈ covered, category ∈ uncovered)
    (.valueError "a model category cannot be both covered and excluded")
  raiseIf (¬ SameSet (covered.filter (· ∈ REQUIRED_MODEL_CATEGORIES) ++ uncovered)
      REQUIRED_MODEL_CATEGORIES)
    (.valueError "every required model category needs a route or exclusion evidence")

def ModelSetManifest.validate (raw : ModelSetManifest) : Except CampaignError ModelSetManifest := do
  let routes ← raw.routes.mapM ModelRoute.validate
  requireNonempty routes
  let modelSet := { raw with
    routes := sortedBy (fun route => route.routeId) routes
    exclusions := sortedBy ExcludedRoute.requestedModel raw.exclusions
    uncoveredCategories := sortedBy (fun item => item.category.value) raw.uncoveredCategories }
  modelSet.validateRouteSet
  return modelSet

lemma ModelRoute.validate_again {raw route : ModelRoute} (h : raw.validate = .ok route) :
    route.validate = .ok route := by
  simp only [validate, bind_eq_ok, raiseIf_eq_ok, not_not, exists_const, pure_eq_ok] at h ⊢
  obtain ⟨hnodup, rfl⟩ := h
  refine ⟨(sortedBy_perm _ _).nodup_iff.mpr hnodup, ?_⟩
  simp only [sortedBy_sortedBy]

lemma ModelSetManifest.validate_again {raw modelSet : ModelSetManifest}
    (h : raw.validate = .ok modelSet) : modelSet.validate = .ok modelSet := by
  simp only [validate, bind_eq_ok, pure_eq_ok] at h
  obtain ⟨routes, hroutes, _, hne, _, hset, rfl⟩ := h
  have hfixed : ∀ route ∈ routes, route.validate = .ok route := by
    intro route hroute
    obtain ⟨raw', -, hvalidate⟩ := exists_of_mem_mapM hroutes hroute
    exact ModelRoute.validate_again hvalidate
  have hagain : (sortedBy (fun route : ModelRoute => route.routeId) routes).mapM
      ModelRoute.validate = .ok (sortedBy (fun route => route.routeId) routes) :=
    mapM_fixed fun route hroute => hfixed route (mem_sortedBy.mp hroute)
  simp only [validate, hagain, ok_bind, sortedBy_sortedBy, bind_eq_ok]
  refine ⟨⟨⟩, ?_, ⟨⟩, hset, rfl⟩
  rw [requireNonempty, raiseIf_eq_ok, (sortedBy_perm _ _).length_eq]
  exact raiseIf_eq_ok.mp hne

/-! ### Campaigns -/

end Schedule

def RetryCondition.value : RetryCondition → String
  | connectFailure => "connect_failure"
  | serverUnavailable => "server_unavailable"
  | rateLimited => "rate_limited"

def RetryPolicy.normalizeConditions (policy : RetryPolicy) : RetryPolicy where
  maxRequestAttempts := policy.maxRequestAttempts
  backoffMilliseconds := policy.backoffMilliseconds
  retryConditions := sortedBy RetryCondition.value policy.retryConditions
  attempts_pos := policy.attempts_pos
  conditions_nodup := (sortedBy_perm _ _).nodup_iff.mpr policy.conditions_nodup
  conditions_iff := by
    rw [policy.conditions_iff]
    constructor
    · exact Schedule.sortedBy_ne_nil
    · intro h hnil
      exact h (by rw [hnil]; rfl)

lemma RetryPolicy.normalizeConditions_again (policy : RetryPolicy) :
    policy.normalizeConditions.normalizeConditions = policy.normalizeConditions := by
  simp only [normalizeConditions, sortedBy_sortedBy]

namespace Schedule

inductive SpendLimit
  | unknown
  | capped (currency : String) (amount : CanonicalDecimal) (amount_pos : 0 < amount)
deriving DecidableEq

/-- The immutable envelope of a comparable, bounded paid evaluation. -/
structure CampaignSpec where
  campaignId : Identifier
  scope : CampaignScope
  modelSetDigest : Digest
  routeIds : List Identifier
  taskReleaseDigests : List Digest
  environmentDigests : List Digest
  harnessDigests : List Digest
  promptDigest : Digest
  toolSchemaDigest : Digest
  feedbackPolicyDigest : Digest
  reasoningEfforts : List String
  serviceTier : ServiceTierLabel
  pairedTrialSeeds : List Seed128Hex
  taskOrderSeed : Seed128Hex
  retryPolicy : RetryPolicy
  tokenLimits : CampaignTokenLimits
  executionLimits : CampaignExecutionLimits
  providerSpendLimit : SpendLimit
deriving DecidableEq

def CampaignSpec.validateScope (spec : CampaignSpec) : Except CampaignError Unit := do
  let tasks := spec.taskReleaseDigests.length
  let efforts := spec.reasoningEfforts.length
  let repetitions := spec.pairedTrialSeeds.length
  let comparison := spec.scope = .modelComparisonPilot ∨ spec.scope = .commonCore
  raiseIf (spec.scope = .endToEndSmoke ∧
      (tasks ≠ 3 ∨ spec.routeIds.length ≠ 1 ∨ efforts ≠ 1 ∨ repetitions ≠ 1))
    (.valueError ("end-to-end smoke campaigns require three tasks, one route, " ++
      "one reasoning effort, and one repetition"))
  raiseIf (comparison ∧ tasks ≠ 8)
    (.valueError "pilot and common core campaigns require exactly eight tasks")
  raiseIf (comparison ∧ efforts ≠ 1)
    (.valueError "pilot and common core campaigns require one reasoning effort")
  raiseIf (spec.scope = .modelComparisonPilot ∧ repetitions ≠ 1)
    (.valueError "model comparison pilot campaigns require exactly one repetition")
  raiseIf (spec.scope = .commonCore ∧ repetitions ≠ 3)
    (.valueError "common core campaigns require exactly three repetitions")
  raiseIf (spec.scope = .reasoningEffortSensitivity ∧
      (tasks ≠ 6 ∨ efforts ≠ 2 ∨ repetitions ≠ 1))
    (.valueError ("reasoning effort sensitivity campaigns require six tasks, " ++
      "two reasoning efforts, and one repetition"))
  raiseIf (spec.scope = .expandedBreadth ∧ repetitions ≠ 1 ∧ repetitions ≠ 3)
    (.valueError "expanded breadth campaigns require one or three repetitions")
  raiseIf (spec.scope = .expandedBreadth ∧ spec.providerSpendLimit = .unknown)
    (.valueError "expanded breadth campaigns require an explicit spend cap")
  raiseIf (spec.tokenLimits.maxRequestsPerTrial < spec.retryPolicy.maxRequestAttempts)
    (.valueError "trial request budget cannot satisfy the retry policy")

/-- One comparison dimension: present, unique and sorted. -/
def normalizeDimension (message : String) (xs : List String) :
    Except CampaignError (List String) := do
  requireNonempty xs
  normalizeUnique message xs

def CampaignSpec.validate (raw : CampaignSpec) : Except CampaignError CampaignSpec := do
  let unique := "campaign comparison dimensions must be unique"
  let routeIds ← normalizeDimension unique raw.routeIds
  let taskReleaseDigests ← normalizeDimension unique raw.taskReleaseDigests
  let environmentDigests ← normalizeDimension unique raw.environmentDigests
  let harnessDigests ← normalizeDimension unique raw.harnessDigests
  let reasoningEfforts ← normalizeDimension unique raw.reasoningEfforts
  let pairedTrialSeeds ←
    normalizeDimension "paired trial seeds must be unique" raw.pairedTrialSeeds
  let spec := { raw with
    routeIds
    taskReleaseDigests
    environmentDigests
    harnessDigests
    reasoningEfforts
    pairedTrialSeeds
    retryPolicy := raw.retryPolicy.normalizeConditions }
  spec.validateScope
  return spec

variable {xs ys : List String} {message : String}

lemma normalizeDimension_eq_ok :
    normalizeDimension message xs = .ok ys ↔
      xs.length ≠ 0 ∧ normalizeUnique message xs = .ok ys := by
  simp only [normalizeDimension, requireNonempty, bind_eq_ok, raiseIf_eq_ok, exists_const]

lemma normalizeDimension_again
    (h : normalizeDimension message xs = .ok ys) : normalizeDimension message ys = .ok ys := by
  obtain ⟨hne, hunique⟩ := normalizeDimension_eq_ok.mp h
  refine normalizeDimension_eq_ok.mpr ⟨?_, normalizeUnique_again hunique⟩
  rw [normalizeUnique_length hunique]
  exact hne

lemma normalizeDimension_nodup (h : normalizeDimension message xs = .ok ys) : ys.Nodup :=
  normalizeUnique_nodup (normalizeDimension_eq_ok.mp h).2

lemma normalizeDimension_ne_nil (h : normalizeDimension message xs = .ok ys) : ys ≠ [] := by
  obtain ⟨hne, hunique⟩ := normalizeDimension_eq_ok.mp h
  intro hnil
  rw [← normalizeUnique_length hunique, hnil] at hne
  exact hne rfl

lemma CampaignSpec.validate_again {raw spec : CampaignSpec} (h : raw.validate = .ok spec) :
    spec.validate = .ok spec := by
  simp only [validate, bind_eq_ok, pure_eq_ok] at h
  obtain ⟨_, h₁, _, h₂, _, h₃, _, h₄, _, h₅, _, h₆, _, hscope, rfl⟩ := h
  simp only [validate, normalizeDimension_again h₁, normalizeDimension_again h₂,
    normalizeDimension_again h₃, normalizeDimension_again h₄, normalizeDimension_again h₅,
    normalizeDimension_again h₆, ok_bind, RetryPolicy.normalizeConditions_again, hscope]
  rfl

/-- The dimensions of an accepted campaign hold each value once. -/
structure CampaignSpec.Distinct (spec : CampaignSpec) : Prop where
  routeIds : spec.routeIds.Nodup
  taskReleaseDigests : spec.taskReleaseDigests.Nodup
  reasoningEfforts : spec.reasoningEfforts.Nodup
  pairedTrialSeeds : spec.pairedTrialSeeds.Nodup
  routeIds_ne_nil : spec.routeIds ≠ []
  taskReleaseDigests_ne_nil : spec.taskReleaseDigests ≠ []
  reasoningEfforts_ne_nil : spec.reasoningEfforts ≠ []
  pairedTrialSeeds_ne_nil : spec.pairedTrialSeeds ≠ []

lemma CampaignSpec.distinct {spec : CampaignSpec} (h : Accepted CampaignSpec.validate spec) :
    spec.Distinct := by
  obtain ⟨raw, h⟩ := h
  simp only [validate, bind_eq_ok, pure_eq_ok] at h
  obtain ⟨_, h₁, _, h₂, _, -, _, -, _, h₅, _, h₆, _, -, rfl⟩ := h
  exact ⟨normalizeDimension_nodup h₁, normalizeDimension_nodup h₂, normalizeDimension_nodup h₅,
    normalizeDimension_nodup h₆, normalizeDimension_ne_nil h₁, normalizeDimension_ne_nil h₂,
    normalizeDimension_ne_nil h₅, normalizeDimension_ne_nil h₆⟩

end Schedule

end EdaGym
