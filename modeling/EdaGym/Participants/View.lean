import EdaGym.Runtime.RunHandle
import EdaGym.Specs.Session

/-!
# Participant views and intents

What the controller shows a participant, and the intents that a participant may answer with.
-/

namespace EdaGym

structure CandidateView where
  candidateId : Identifier
  parentCandidateId : Option Identifier := none

structure MeasurementFeedback where
  measurementId : Identifier
  unit : MeasurementUnit
  samples : List String

structure StageFeedback where
  candidateId : Identifier
  stageId : Identifier
  outcome : OutcomeKind
  measurements : List MeasurementFeedback := []

structure ScoringFeedback where
  candidateId : Identifier
  decision : ScoringDecision

/-- A journal-derived view containing only policy-approved structured feedback. -/
structure ParticipantView where
  runId : Digest
  taskFamily : Identifier
  authoringRevision : Nat
  actorId : Identifier
  candidates : List CandidateView := []
  feedback : List StageFeedback := []
  scoring : List ScoringFeedback := []

/-! ### Intents -/

inductive ParticipantIntent
  | interaction (interactionId : Identifier) (direction : InteractionDirection)
      (artifactRefs : List Identifier)
      (participant_direction : direction = .participantOutput ∨ direction = .toolRequest)
      (refs_sorted : artifactRefs.Pairwise (· < ·))
  | submitCandidate (candidateId : Identifier) (parentCandidateId : Option Identifier)
  | finishTraining (candidateId : Identifier)
  | transferControl (nextWriter : Identifier)

end EdaGym
