import EdaGym.Evaluation.Dominance
import EdaGym.Run.Model

/-!
# Leaderboard entries and their Pareto front
-/

namespace EdaGym

inductive ParticipationKind
  | human | agent | hybrid
deriving DecidableEq, Repr

inductive TaskNamespace
  | nativeSealed | publicCalibration
deriving DecidableEq, Repr

/-- A task with the namespace of its origin, which nothing else here reads. -/
structure OriginTask extends TaskSpec where
  originNamespace : TaskNamespace

structure RunLineage where
  parentRunId : Option Digest := none
  parentCheckpointId : Option Identifier := none
  parentCandidateId : Option Identifier := none
  parent_required : parentRunId = none →
    parentCheckpointId = none ∧ parentCandidateId = none := by simp
deriving DecidableEq

inductive LeaderboardActor
  | human (actorId : Identifier) (adapterDigest : Digest)
  | harness (actorId : Identifier) (requestedModelRoute : ModelLabel) (harnessDigest : Digest)
      (scaffoldDigest : Digest)
deriving DecidableEq, Repr

def LeaderboardActor.actorId : LeaderboardActor → Identifier
  | .human actorId _ => actorId
  | .harness actorId _ _ _ => actorId

def LeaderboardActor.isHuman : LeaderboardActor → Bool
  | .human _ _ => true
  | .harness _ _ _ _ => false

structure LeaderboardCohort where
  actors : List LeaderboardActor
  initialWriter : Identifier
  handoffEnabled : Bool
  participation : ParticipationKind
  actors_sorted : (actors.map LeaderboardActor.actorId).Pairwise (· < ·) := by decide
  writer_known : initialWriter ∈ actors.map LeaderboardActor.actorId := by decide
  handoff_iff : handoffEnabled = true ↔ 1 < actors.length := by decide
  participation_eq : participation =
    if actors.any LeaderboardActor.isHuman then
      if actors.any fun actor => !actor.isHuman then .hybrid else .human
    else .agent := by decide
deriving DecidableEq

structure LeaderboardEvaluator where
  evaluatorId : Identifier
  revisionDigest : Digest
deriving DecidableEq

/-- What runs must share to be compared. -/
structure LeaderboardPartition where
  taskFamily : Identifier
  authoringRevision : Nat
  taskSpecDigest : Digest
  instanceDigest : Digest
  releaseDigest : Digest
  environmentSpecDigest : Digest
  cohort : LeaderboardCohort
  feedbackPolicyDigest : Digest
  budgetDigest : Digest
  evaluators : List LeaderboardEvaluator
  measurementSchemaDigest : Digest
  scorerRevisionDigest : Option Digest := none
  trialCount : Nat
deriving DecidableEq

/-- `LeaderboardPartition.digest`. -/
class PartitionDigests where
  partitionDigest : LeaderboardPartition → Digest

export PartitionDigests (partitionDigest)

variable [PartitionDigests]

/-- An entry with the facts its eligibility is checked against. -/
structure LeaderboardEntry where
  partitionId : Digest
  partition : LeaderboardPartition
  runId : Digest
  lineage : RunLineage
  rankEligible : Bool
  success : Bool
  terminalReason : StopReason
  scoringEligibility : Option ScorerEligibilityKind := none
  score : Option CandidateScore := none
  partitionId_eq : partitionId = partitionDigest partition
  rankEligible_iff : rankEligible = true ↔ partition.cohort.participation = .agent ∧
    lineage.parentRunId = none ∧ terminalReason = .verifierSuccess ∧
    scoringEligibility = some .ready
  success_iff : success = true ↔ terminalReason = .verifierSuccess
  score_success : score.isSome → success = true
  score_iff : scoringEligibility = some .ready ↔ score.isSome
deriving DecidableEq

/-- `ProjectionUnavailable` and the `ValueError` of a comparison. -/
inductive ProjectionError
  | unavailable (message : String)
  | value (message : String)
deriving DecidableEq, Repr

/-- The eligible entries with their raw vectors, each checked against the task's schema. -/
def eligibleEntries (task : TaskSpec) :
    List LeaderboardEntry →
      Except ProjectionError (List (LeaderboardEntry × List AggregatedMeasurement))
  | [] => .ok []
  | entry :: entries =>
    if entry.rankEligible then
      match entry.score with
      | some (.paretoVector score) => do
        let _ ← (paretoDominates task score score).mapError fun _ =>
          .unavailable "Pareto entry differs from the task measurement schema"
        let rest ← eligibleEntries task entries
        pure ((entry, score) :: rest)
      | _ => .error (.unavailable "eligible Pareto entries require raw-vector scores")
    else eligibleEntries task entries

/-- `any(index != other_index and pareto_dominates(task, other_score, score) for ...)`. -/
def dominatedBy (task : TaskSpec) (index : Nat) (score : List AggregatedMeasurement) :
    List ((LeaderboardEntry × List AggregatedMeasurement) × Nat) → Except ProjectionError Bool
  | [] => .ok false
  | (other, otherIndex) :: others =>
    if index ≠ otherIndex then do
      let dominates ← (paretoDominates task other.2 score).mapError .value
      if dominates then pure true else dominatedBy task index score others
    else dominatedBy task index score others

/-- The comprehension of `project_pareto_front`. -/
def undominatedEntries (task : TaskSpec)
    (eligible : List ((LeaderboardEntry × List AggregatedMeasurement) × Nat)) :
    List ((LeaderboardEntry × List AggregatedMeasurement) × Nat) →
      Except ProjectionError (List LeaderboardEntry)
  | [] => .ok []
  | ((entry, score), index) :: entries => do
    let dominated ← dominatedBy task index score eligible
    let rest ← undominatedEntries task eligible entries
    pure (if dominated then rest else entry :: rest)

/-- The eligible nondominated entries within one exact partition. -/
def projectParetoFront (task : OriginTask) (entries : List LeaderboardEntry) :
    Except ProjectionError (List LeaderboardEntry) := do
  raiseIf (task.originNamespace ≠ .nativeSealed)
    (.unavailable "public calibration tasks are not eligible for the sealed leaderboard")
  match entries with
  | [] => .error (.unavailable "a Pareto front requires leaderboard entries")
  | first :: _ => do
    raiseIf (∃ entry ∈ entries, entry.partitionId ≠ first.partitionId)
      (.unavailable "a Pareto front cannot cross leaderboard partitions")
    raiseIf (¬ (entries.map LeaderboardEntry.runId).Nodup)
      (.unavailable "a Pareto front cannot contain a run twice")
    raiseIf (task.digest ≠ first.partition.taskSpecDigest)
      (.unavailable "the Pareto task does not match the leaderboard partition")
    raiseIf (task.evaluation.scorer.isSome ∨ first.partition.scorerRevisionDigest.isSome)
      (.unavailable "Pareto fronts require raw-vector scoring")
    raiseIf (∀ measurement ∈ task.measurements, measurement.direction = .none)
      (.unavailable "Pareto fronts require at least one objective")
    let eligible ← eligibleEntries task.toTaskSpec entries
    let front ← undominatedEntries task.toTaskSpec eligible.zipIdx eligible.zipIdx
    pure (sortedBy LeaderboardEntry.runId front)

end EdaGym
