import EdaGym.Specs.Common

/-!
# Session specification

The mode of a session, its participants, its feedback and recovery policies and its budgets. Writer
control and candidate authority are not read here.
-/

namespace EdaGym

inductive FeedbackPolicy
  | none | stage | safeDiagnostic | metrics | course
deriving DecidableEq, Repr

inductive RecoveryPolicy
  | none | bestEffort | required
deriving DecidableEq, Repr

inductive OralDefensePolicy
  | disabled | optional | required
deriving DecidableEq, Repr

inductive SessionMode
  | benchmark (trialCount : Nat)
  | training
  | course (rubricDigest : Digest) (oralDefense : OralDefensePolicy)
deriving DecidableEq, Repr

inductive ActorSpec
  | human (actorId adapterId : Identifier) (adapterDigest : Digest)
  | harness (actorId harnessId : Identifier) (harnessDigest scaffoldDigest : Digest)
      (requestedModelRoute : String)
deriving DecidableEq, Repr

namespace ActorSpec

def actorId : ActorSpec → Identifier
  | human actorId _ _ => actorId
  | harness actorId _ _ _ _ => actorId

def IsHarness : ActorSpec → Prop
  | human .. => False
  | harness .. => True

instance : DecidablePred IsHarness
  | human .. => isFalse id
  | harness .. => isTrue trivial

end ActorSpec

structure ResourceBudget where
  maxTurns : Nat
  maxToolCalls : Nat
  maxExperiments : Nat
  maxWallSeconds : Nat
  maxEdaComputeSeconds : Nat
  maxLicenseSeconds : Nat
  maxArtifactBytes : Nat
  turns_pos : 1 ≤ maxTurns := by first | exact Nat.zero_lt_one | decide
  toolCalls_pos : 1 ≤ maxToolCalls := by first | exact Nat.zero_lt_one | decide
  experiments_pos : 1 ≤ maxExperiments := by first | exact Nat.zero_lt_one | decide
  wallSeconds_pos : 1 ≤ maxWallSeconds := by first | exact Nat.zero_lt_one | decide
  edaComputeSeconds_pos : 1 ≤ maxEdaComputeSeconds := by first | exact Nat.zero_lt_one | decide
  artifactBytes_pos : 1 ≤ maxArtifactBytes := by first | exact Nat.zero_lt_one | decide

structure ModelBudget where
  maxRequests : Nat
  maxInputTokensPerRequest : Nat
  maxOutputTokensPerRequest : Nat
  maxTotalInputTokens : Nat
  maxTotalOutputTokens : Nat
  maxTotalTokens : Nat
  requests_pos : 1 ≤ maxRequests := by decide
  input_request_pos : 1 ≤ maxInputTokensPerRequest := by decide
  output_request_pos : 1 ≤ maxOutputTokensPerRequest := by decide
  input_request_le : maxInputTokensPerRequest ≤ maxTotalInputTokens := by decide
  output_request_le : maxOutputTokensPerRequest ≤ maxTotalOutputTokens := by decide
  exchange_le : maxInputTokensPerRequest + maxOutputTokensPerRequest ≤ maxTotalTokens := by decide
  total_le : maxTotalTokens ≤ maxTotalInputTokens + maxTotalOutputTokens := by decide

/-- The rules that tie recovery and feedback to the mode. -/
def SessionMode.Permits (mode : SessionMode) (actors : List ActorSpec) (feedback : FeedbackPolicy)
    (recovery : RecoveryPolicy) : Prop :=
  match mode with
  | .benchmark trialCount =>
    1 ≤ trialCount ∧ recovery = .none ∧ feedback ∉ [.metrics, .course]
  | .training => recovery = .required ∧ feedback ∈ [.stage, .safeDiagnostic, .metrics]
  | .course _ _ => (∃ actor ∈ actors, ¬ actor.IsHarness) ∧ feedback = .course

instance (mode : SessionMode) (actors : List ActorSpec) (feedback : FeedbackPolicy)
    (recovery : RecoveryPolicy) : Decidable (mode.Permits actors feedback recovery) :=
  match mode with
  | .benchmark _ => inferInstanceAs (Decidable (_ ∧ _))
  | .training => inferInstanceAs (Decidable (_ ∧ _))
  | .course _ _ => inferInstanceAs (Decidable (_ ∧ _))

structure SessionSpec where
  mode : SessionMode
  actors : List ActorSpec
  feedback : FeedbackPolicy
  recovery : RecoveryPolicy
  resources : ResourceBudget
  modelBudget : Option ModelBudget := none
  actors_ne_nil : actors ≠ [] := by decide
  actors_sorted : (actors.map ActorSpec.actorId).Pairwise (· < ·) := by decide
  budget_iff : (∃ actor ∈ actors, actor.IsHarness) ↔ modelBudget.isSome := by decide
  mode_permits : mode.Permits actors feedback recovery := by decide

end EdaGym
