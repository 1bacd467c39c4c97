import EdaGym.Run.Model

/-!
# States of an executor job
-/

namespace EdaGym

inductive ExecutorJobStateKind
  | queued | running | completed | failed | cancelled | timedOut | lost
deriving DecidableEq, Repr

inductive ExecutionFailureKind
  | candidate | tool | infrastructure | licenseUnavailable | securityViolation | timeout | cancelled
deriving DecidableEq, Repr

structure ExecutorJobState where
  state : ExecutorJobStateKind
  failure : Option ExecutionFailureKind := none
deriving DecidableEq

def ExecutorJobState.isTerminal (state : ExecutorJobState) : Bool :=
  state.state ∈ [.completed, .failed, .cancelled, .timedOut, .lost]

/-- What a licence provider answers to a request for a lease. -/
inductive LeaseAnswer
  | lease (providerId featureClass : Identifier) (active : Bool)
  | unavailable
  | failed
deriving DecidableEq, Repr

end EdaGym
