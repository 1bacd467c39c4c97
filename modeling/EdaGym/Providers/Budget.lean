import EdaGym.Specs.Common
import Mathlib.Data.Fintype.Basic

/-!
# Resource domains of paid campaigns

The nine counters of the source's resource classes are the fields of `ResourceVector`. The source
adds, subtracts and compares them in loops over `fields(self)`; here these loops are functions of
the field name, through `get` and `ofFields`.
-/

namespace EdaGym

/-- The names of the resource counters. -/
inductive ResourceField
  | requests | inputTokens | outputTokens | turns | toolCalls | wallSeconds | edaComputeSeconds
  | licenseSeconds | artifactBytes
deriving DecidableEq, Repr

instance : Fintype ResourceField :=
  Fintype.ofList [.requests, .inputTokens, .outputTokens, .turns, .toolCalls, .wallSeconds,
    .edaComputeSeconds, .licenseSeconds, .artifactBytes] (by intro item; cases item <;> simp)

structure ResourceVector (α : Type) where
  requests : α
  inputTokens : α
  outputTokens : α
  turns : α
  toolCalls : α
  wallSeconds : α
  edaComputeSeconds : α
  licenseSeconds : α
  artifactBytes : α
deriving DecidableEq

namespace ResourceVector

variable {α : Type}

/-- `getattr(self, item.name)`. -/
def get (r : ResourceVector α) : ResourceField → α
  | .requests => r.requests
  | .inputTokens => r.inputTokens
  | .outputTokens => r.outputTokens
  | .turns => r.turns
  | .toolCalls => r.toolCalls
  | .wallSeconds => r.wallSeconds
  | .edaComputeSeconds => r.edaComputeSeconds
  | .licenseSeconds => r.licenseSeconds
  | .artifactBytes => r.artifactBytes

/-- The vector whose counters are computed field by field. -/
def ofFields (f : ResourceField → α) : ResourceVector α where
  requests := f .requests
  inputTokens := f .inputTokens
  outputTokens := f .outputTokens
  turns := f .turns
  toolCalls := f .toolCalls
  wallSeconds := f .wallSeconds
  edaComputeSeconds := f .edaComputeSeconds
  licenseSeconds := f .licenseSeconds
  artifactBytes := f .artifactBytes

@[simp] lemma get_ofFields (f : ResourceField → α) (item : ResourceField) :
    (ofFields f).get item = f item := by
  cases item <;> rfl

lemma ext_get {r s : ResourceVector α} (h : ∀ item, r.get item = s.get item) : r = s := by
  obtain ⟨⟩ := r
  obtain ⟨⟩ := s
  have h₁ := h .requests
  have h₂ := h .inputTokens
  have h₃ := h .outputTokens
  have h₄ := h .turns
  have h₅ := h .toolCalls
  have h₆ := h .wallSeconds
  have h₇ := h .edaComputeSeconds
  have h₈ := h .licenseSeconds
  have h₉ := h .artifactBytes
  simp only [get] at h₁ h₂ h₃ h₄ h₅ h₆ h₇ h₈ h₉
  simp [*]

end ResourceVector

/-- Immutable resource amounts: JSON-safe natural numbers. -/
structure CampaignResources extends ResourceVector Nat where
  bounded : ∀ item, toResourceVector.get item ≤ JCS_INTEGER_MAX := by decide
deriving DecidableEq

namespace CampaignResources

/-- All counters are zero. -/
def IsZero (r : CampaignResources) : Prop := ∀ item, r.get item = 0

instance (r : CampaignResources) : Decidable r.IsZero :=
  inferInstanceAs (Decidable (∀ item, r.get item = 0))

end CampaignResources

/-- The running totals of a ledger; plain integers, nothing keeps them from going negative. -/
abbrev MutableResources := ResourceVector Int

namespace MutableResources

def zero : MutableResources := .ofFields fun _ => 0

def add (r : MutableResources) (value : CampaignResources) : MutableResources :=
  .ofFields fun item => r.get item + value.get item

def subtract (r : MutableResources) (value : CampaignResources) : MutableResources :=
  .ofFields fun item => r.get item - value.get item

/-- `_sum_resources`. -/
def sumResources (first second : MutableResources) : MutableResources :=
  .ofFields fun item => first.get item + second.get item

@[simp] lemma get_zero (item : ResourceField) : zero.get item = 0 :=
  ResourceVector.get_ofFields _ _

@[simp] lemma get_add (r : MutableResources) (value : CampaignResources) (item : ResourceField) :
    (r.add value).get item = r.get item + value.get item :=
  ResourceVector.get_ofFields _ _

@[simp] lemma get_subtract (r : MutableResources) (value : CampaignResources)
    (item : ResourceField) : (r.subtract value).get item = r.get item - value.get item :=
  ResourceVector.get_ofFields _ _

@[simp] lemma get_sumResources (first second : MutableResources) (item : ResourceField) :
    (sumResources first second).get item = first.get item + second.get item :=
  ResourceVector.get_ofFields _ _

end MutableResources

/-- The budgeted dimensions, in the order in which they are checked. -/
inductive BudgetDimension
  | requests | inputTokens | outputTokens | totalTokens | turns | toolCalls | wallSeconds
  | edaComputeSeconds | licenseSeconds | artifactBytes
deriving DecidableEq, Repr

def BudgetDimension.all : List BudgetDimension :=
  [.requests, .inputTokens, .outputTokens, .totalTokens, .turns, .toolCalls, .wallSeconds,
    .edaComputeSeconds, .licenseSeconds, .artifactBytes]

lemma BudgetDimension.mem_all (d : BudgetDimension) : d ∈ all := by
  cases d <;> decide

/-- The amount of a vector in one dimension; the total counts input and output tokens. -/
def BudgetDimension.amount (r : MutableResources) : BudgetDimension → Int
  | .requests => r.requests
  | .inputTokens => r.inputTokens
  | .outputTokens => r.outputTokens
  | .totalTokens => r.inputTokens + r.outputTokens
  | .turns => r.turns
  | .toolCalls => r.toolCalls
  | .wallSeconds => r.wallSeconds
  | .edaComputeSeconds => r.edaComputeSeconds
  | .licenseSeconds => r.licenseSeconds
  | .artifactBytes => r.artifactBytes

/-- A dimension only sums counters, so it is monotone in them. -/
lemma BudgetDimension.amount_mono {r s : MutableResources}
    (h : ∀ item, r.get item ≤ s.get item) (d : BudgetDimension) : d.amount r ≤ d.amount s := by
  cases d with
  | requests => exact h .requests
  | inputTokens => exact h .inputTokens
  | outputTokens => exact h .outputTokens
  | totalTokens => exact add_le_add (h .inputTokens) (h .outputTokens)
  | turns => exact h .turns
  | toolCalls => exact h .toolCalls
  | wallSeconds => exact h .wallSeconds
  | edaComputeSeconds => exact h .edaComputeSeconds
  | licenseSeconds => exact h .licenseSeconds
  | artifactBytes => exact h .artifactBytes

/-! ### Limits -/

/-- Directional and combined hard caps at request, trial and campaign scope. -/
structure CampaignTokenLimits where
  maxRequests : Nat
  maxRequestsPerTrial : Nat
  maxInputTokensPerRequest : Nat
  maxOutputTokensPerRequest : Nat
  maxInputTokensPerTrial : Nat
  maxOutputTokensPerTrial : Nat
  maxTotalTokensPerTrial : Nat
  maxInputTokens : Nat
  maxOutputTokens : Nat
  maxTotalTokens : Nat
  requests_le : maxRequestsPerTrial ≤ maxRequests := by decide
  input_request_le : maxInputTokensPerRequest ≤ maxInputTokensPerTrial := by decide
  output_request_le : maxOutputTokensPerRequest ≤ maxOutputTokensPerTrial := by decide
  input_le : maxInputTokensPerTrial ≤ maxInputTokens := by decide
  output_le : maxOutputTokensPerTrial ≤ maxOutputTokens := by decide
  request_total_le :
    maxInputTokensPerRequest + maxOutputTokensPerRequest ≤ maxTotalTokensPerTrial := by decide
  trial_total_le :
    maxTotalTokensPerTrial ≤ maxInputTokensPerTrial + maxOutputTokensPerTrial := by decide
  total_trial_le : maxTotalTokensPerTrial ≤ maxTotalTokens := by decide
  total_le : maxTotalTokens ≤ maxInputTokens + maxOutputTokens := by decide
deriving DecidableEq

/-- Non-token hard caps with independent trial and campaign ceilings. -/
structure CampaignExecutionLimits where
  maxTurnsPerTrial : Nat
  maxToolCallsPerTrial : Nat
  maxWallSecondsPerTrial : Nat
  maxEdaComputeSecondsPerTrial : Nat
  maxLicenseSecondsPerTrial : Nat
  maxArtifactBytesPerTrial : Nat
  maxTurns : Nat
  maxToolCalls : Nat
  maxWallSeconds : Nat
  maxEdaComputeSeconds : Nat
  maxLicenseSeconds : Nat
  maxArtifactBytes : Nat
  turns_le : maxTurnsPerTrial ≤ maxTurns := by decide
  toolCalls_le : maxToolCallsPerTrial ≤ maxToolCalls := by decide
  wallSeconds_le : maxWallSecondsPerTrial ≤ maxWallSeconds := by decide
  edaComputeSeconds_le : maxEdaComputeSecondsPerTrial ≤ maxEdaComputeSeconds := by decide
  licenseSeconds_le : maxLicenseSecondsPerTrial ≤ maxLicenseSeconds := by decide
  artifactBytes_le : maxArtifactBytesPerTrial ≤ maxArtifactBytes := by decide
deriving DecidableEq

/-- `_limits`, for the whole campaign or for one trial. -/
def limits (token : CampaignTokenLimits) (execution : CampaignExecutionLimits)
    (perTrial : Bool) : BudgetDimension → Nat
  | .requests => if perTrial then token.maxRequestsPerTrial else token.maxRequests
  | .inputTokens => if perTrial then token.maxInputTokensPerTrial else token.maxInputTokens
  | .outputTokens => if perTrial then token.maxOutputTokensPerTrial else token.maxOutputTokens
  | .totalTokens => if perTrial then token.maxTotalTokensPerTrial else token.maxTotalTokens
  | .turns => if perTrial then execution.maxTurnsPerTrial else execution.maxTurns
  | .toolCalls => if perTrial then execution.maxToolCallsPerTrial else execution.maxToolCalls
  | .wallSeconds => if perTrial then execution.maxWallSecondsPerTrial else execution.maxWallSeconds
  | .edaComputeSeconds =>
    if perTrial then execution.maxEdaComputeSecondsPerTrial else execution.maxEdaComputeSeconds
  | .licenseSeconds =>
    if perTrial then execution.maxLicenseSecondsPerTrial else execution.maxLicenseSeconds
  | .artifactBytes =>
    if perTrial then execution.maxArtifactBytesPerTrial else execution.maxArtifactBytes

/-- The first dimension in which `current + claim` exceeds its limit. -/
def firstExceeded (current : MutableResources) (claim : CampaignResources)
    (limit : BudgetDimension → Nat) : Option BudgetDimension :=
  BudgetDimension.all.find? fun d => (limit d : Int) < d.amount (current.add claim)

lemma firstExceeded_eq_none {current : MutableResources} {claim : CampaignResources}
    {limit : BudgetDimension → Nat} :
    firstExceeded current claim limit = none ↔ ∀ d, d.amount (current.add claim) ≤ limit d := by
  simp only [firstExceeded, List.find?_eq_none, decide_eq_true_eq, not_lt]
  exact ⟨fun h d => h d d.mem_all, fun h d _ => h d⟩

/-- Some counter of `actual` is larger than that of `claim`. -/
def Exceeds (actual claim : CampaignResources) : Prop :=
  ∃ item : ResourceField, claim.get item < actual.get item

instance (actual claim : CampaignResources) : Decidable (Exceeds actual claim) :=
  inferInstanceAs (Decidable (∃ item : ResourceField, claim.get item < actual.get item))

lemma le_of_not_exceeds {actual claim : CampaignResources} (h : ¬ Exceeds actual claim)
    (item : ResourceField) : actual.get item ≤ claim.get item := by
  by_contra hn
  exact h ⟨item, Nat.lt_of_not_le hn⟩

end EdaGym
