import EdaGym.Specs.Task

/-!
# Evaluator outcomes and derived promotion decisions
-/

namespace EdaGym

/-- The discriminator of a stage outcome; outcomes carry no other data. -/
inductive OutcomeKind
  | passed | proved | counterexample | candidateFailure | unknown | timeout
  | infrastructureFailure | licenseUnavailable | securityViolation
deriving DecidableEq, Repr

inductive EvidenceKind
  | log | report | measurement | trace | waveform | proof | counterexample | diagnostic
deriving DecidableEq, Repr

structure ArtifactEvidence where
  kind : EvidenceKind
  artifactId : Identifier
deriving DecidableEq

/-- Resolved context needed to replay one raw measurement vector. -/
structure MeasurementProvenance where
  unit : MeasurementUnit
  toolId : Identifier
  toolVersion : String
  libraryId : Identifier
  libraryDigest : Digest
  corner : Identifier
  mode : Identifier
  taskSeed : Seed128Hex
  sampleSeeds : List Seed128Hex
  sourceArtifactId : Identifier
  sourceDigest : Digest
deriving DecidableEq

structure MeasurementEvidence where
  measurementId : Identifier
  samples : List CanonicalDecimal
  provenance : Option MeasurementProvenance := none
  samples_ne_nil : samples ≠ []
  provenance_shape : ∀ p ∈ provenance,
    p.sampleSeeds.length = samples.length ∧ p.sampleSeeds.Nodup := by simp
deriving DecidableEq

/-- One value derived from the samples owned by a measurement result. -/
structure AggregatedMeasurement where
  measurementId : Identifier
  value : CanonicalDecimal
deriving DecidableEq

/-- A raw Pareto vector or a configured scalar score, over the same aggregate vector. -/
inductive CandidateScore
  | paretoVector (measurements : List AggregatedMeasurement)
  | scalar (measurements : List AggregatedMeasurement) (value : CanonicalDecimal)
      (direction : MetricDirection) (scorerRevisionDigest : Digest)
deriving DecidableEq

structure StageResult where
  stageId : Identifier
  outcome : OutcomeKind
  measurements : List MeasurementEvidence := []
  evidence : List ArtifactEvidence := []
  measurements_sorted :
    (measurements.map MeasurementEvidence.measurementId).Pairwise (· < ·) := by
      first | exact sorted_nil | simp
  evidence_nodup : evidence.Nodup := by first | exact List.nodup_nil | simp
deriving DecidableEq

inductive StageEligibilityKind
  | completed | ready | waiting | blocked
deriving DecidableEq, Repr

structure StageEligibility where
  stageId : Identifier
  state : StageEligibilityKind
  blockingStageIds : List Identifier := []
  waitingStageIds : List Identifier := []

inductive HardGateState
  | succeeded | pending | failed
deriving DecidableEq, Repr

structure HardGateStatus where
  state : HardGateState
  failedGateIds : List Identifier := []
  blockingStageIds : List Identifier := []
  pendingGateIds : List Identifier := []

inductive ScorerEligibilityKind
  | notConfigured | ready | waiting | blocked
deriving DecidableEq, Repr

structure ScorerEligibility where
  state : ScorerEligibilityKind
  blockingStageIds : List Identifier := []
  waitingStageIds : List Identifier := []
deriving DecidableEq

/-- A terminal scoring eligibility fact and its optional derived result. -/
structure ScoringDecision where
  eligibility : ScorerEligibility
  score : Option CandidateScore := none
  score_iff_ready : eligibility.state = .ready ↔ score.isSome
  not_waiting : eligibility.state ≠ .waiting
deriving DecidableEq

end EdaGym
