import EdaGym.Lib.Ledger
import EdaGym.Lib.Process
import EdaGym.Specs.Common

/-!
# The in-memory budget ledger

A `BudgetLedger` owns the counters of bounded provider probes and changes them under one lock. A
`BudgetReservation` has a lock of its own: settling or cancelling it takes two sections, the
first marks the reservation, the second updates the ledger. Each section is a `Process` that runs
as a whole.
-/

namespace EdaGym

open Process

/-- Standalone provider limits for bounded probes. -/
structure BudgetLimits where
  maxRequests : Nat
  maxInputTokens : Nat
  maxOutputTokens : Nat
  maxTotalTokens : Nat
  maxRequestsPerTrial : Nat
  maxInputTokensPerTrial : Nat
  maxOutputTokensPerTrial : Nat
  maxTotalTokensPerTrial : Nat
  total_le : maxTotalTokens ≤ maxInputTokens + maxOutputTokens := by decide
  trialTotal_le_total : maxTotalTokensPerTrial ≤ maxTotalTokens := by decide
  trialRequests_le : maxRequestsPerTrial ≤ maxRequests := by decide
  trialInput_le : maxInputTokensPerTrial ≤ maxInputTokens := by decide
  trialOutput_le : maxOutputTokensPerTrial ≤ maxOutputTokens := by decide
  trialTotal_le : maxTotalTokensPerTrial ≤ maxInputTokensPerTrial + maxOutputTokensPerTrial := by
    decide

/-- The exceptions of the module: `BudgetExceeded`, `ValueError` for the two reservation amounts,
`BudgetProtocolError` for the others, and the `KeyError` of an unknown trial. -/
inductive BudgetError
  | exceeded | inputReservation | outputReservation | inputUsage | outputUsage | overrun
  | dispatchState | settleState | cancelState | key
deriving DecidableEq, Repr

structure TrialUsage where
  committedRequests : Int := 0
  reservedRequests : Int := 0
  committedInputTokens : Int := 0
  reservedInputTokens : Int := 0
  committedOutputTokens : Int := 0
  reservedOutputTokens : Int := 0

structure BudgetLedger where
  limits : BudgetLimits
  committedRequests : Int := 0
  reservedRequests : Int := 0
  committedInput : Int := 0
  reservedInput : Int := 0
  committedOutput : Int := 0
  reservedOutput : Int := 0
  trials : Dict Identifier TrialUsage := .empty
  violated : Bool := false

/-- Single-owner reservation that burns its worst case once dispatch begins. -/
structure BudgetReservation where
  trialId : Identifier
  inputTokens : Int
  outputTokens : Int
  dispatched : Bool := false
  settled : Bool := false

namespace BudgetLedger

/-- The comparison of `reserve`: one of the eight caps would be crossed. -/
def Rejects (l : BudgetLedger) (trial : TrialUsage) (inputTokens outputTokens : Int) : Prop :=
  l.committedRequests + l.reservedRequests + 1 > l.limits.maxRequests ∨
  l.committedInput + l.reservedInput + inputTokens > l.limits.maxInputTokens ∨
  l.committedOutput + l.reservedOutput + outputTokens > l.limits.maxOutputTokens ∨
  l.committedInput + l.reservedInput + l.committedOutput + l.reservedOutput +
    (inputTokens + outputTokens) > l.limits.maxTotalTokens ∨
  trial.committedRequests + trial.reservedRequests + 1 > l.limits.maxRequestsPerTrial ∨
  trial.committedInputTokens + trial.reservedInputTokens + inputTokens >
    l.limits.maxInputTokensPerTrial ∨
  trial.committedOutputTokens + trial.reservedOutputTokens + outputTokens >
    l.limits.maxOutputTokensPerTrial ∨
  trial.committedInputTokens + trial.reservedInputTokens + trial.committedOutputTokens +
    trial.reservedOutputTokens + (inputTokens + outputTokens) > l.limits.maxTotalTokensPerTrial

instance (l : BudgetLedger) (trial : TrialUsage) (inputTokens outputTokens : Int) :
    Decidable (l.Rejects trial inputTokens outputTokens) :=
  inferInstanceAs (Decidable (_ ∨ _))

def reserve (trialId : Identifier) (inputTokens outputTokens : Int) :
    Process BudgetLedger BudgetError BudgetReservation := transact fun l => do
  raiseIf (inputTokens ≤ 0) .inputReservation
  raiseIf (outputTokens ≤ 0) .outputReservation
  let trial := (l.trials.get? trialId).getD {}
  raiseIf (l.Rejects trial inputTokens outputTokens) .exceeded
  pure ({ trialId, inputTokens, outputTokens }, { l with
    reservedRequests := l.reservedRequests + 1
    reservedInput := l.reservedInput + inputTokens
    reservedOutput := l.reservedOutput + outputTokens
    trials := l.trials.insert trialId { trial with
      reservedRequests := trial.reservedRequests + 1
      reservedInputTokens := trial.reservedInputTokens + inputTokens
      reservedOutputTokens := trial.reservedOutputTokens + outputTokens } })

/-- Read `self._trials[trial_id]`, change it in place and return it. -/
def changeTrial (trialId : Identifier) (change : TrialUsage → TrialUsage) :
    Process BudgetLedger BudgetError TrialUsage := transact fun l => do
  let trial ← orRaise (l.trials.get? trialId) .key
  pure (change trial, { l with trials := l.trials.insert trialId (change trial) })

def removeReserved (reservation : BudgetReservation) :
    Process BudgetLedger BudgetError PUnit := do
  alter fun l => { l with
    reservedRequests := l.reservedRequests - 1
    reservedInput := l.reservedInput - reservation.inputTokens
    reservedOutput := l.reservedOutput - reservation.outputTokens }
  let _ ← changeTrial reservation.trialId fun trial => { trial with
    reservedRequests := trial.reservedRequests - 1
    reservedInputTokens := trial.reservedInputTokens - reservation.inputTokens
    reservedOutputTokens := trial.reservedOutputTokens - reservation.outputTokens }
  pure ⟨⟩

/-- `_cancel`. -/
def cancel (reservation : BudgetReservation) : Process BudgetLedger BudgetError PUnit :=
  removeReserved reservation

/-- The comparison of `_settle`, made when the usage is already committed. -/
def Overruns (l : BudgetLedger) (trial : TrialUsage) (reservation : BudgetReservation)
    (inputTokens outputTokens : Int) : Prop :=
  inputTokens > reservation.inputTokens ∨
  outputTokens > reservation.outputTokens ∨
  l.committedInput > l.limits.maxInputTokens ∨
  l.committedOutput > l.limits.maxOutputTokens ∨
  l.committedInput + l.committedOutput > l.limits.maxTotalTokens ∨
  trial.committedInputTokens > l.limits.maxInputTokensPerTrial ∨
  trial.committedOutputTokens > l.limits.maxOutputTokensPerTrial ∨
  trial.committedInputTokens + trial.committedOutputTokens > l.limits.maxTotalTokensPerTrial

instance (l : BudgetLedger) (trial : TrialUsage) (reservation : BudgetReservation)
    (inputTokens outputTokens : Int) :
    Decidable (l.Overruns trial reservation inputTokens outputTokens) :=
  inferInstanceAs (Decidable (_ ∨ _))

/-- The last test of `_settle`: an overrun stays recorded although the call raises. -/
def flagOverrun (trial : TrialUsage) (reservation : BudgetReservation)
    (inputTokens outputTokens : Int) : Process BudgetLedger BudgetError PUnit := fun l =>
  if l.Overruns trial reservation inputTokens outputTokens then
    (.error .overrun, { l with violated := true })
  else (.ok ⟨⟩, l)

/-- `_settle`. -/
def settle (reservation : BudgetReservation) (inputTokens outputTokens : Int) :
    Process BudgetLedger BudgetError PUnit := do
  Process.ofExcept (raiseIf (inputTokens < 0) .inputUsage)
  Process.ofExcept (raiseIf (outputTokens < 0) .outputUsage)
  removeReserved reservation
  alter fun l => { l with
    committedRequests := l.committedRequests + 1
    committedInput := l.committedInput + inputTokens
    committedOutput := l.committedOutput + outputTokens }
  let trial ← changeTrial reservation.trialId fun trial => { trial with
    committedRequests := trial.committedRequests + 1
    committedInputTokens := trial.committedInputTokens + inputTokens
    committedOutputTokens := trial.committedOutputTokens + outputTokens }
  flagOverrun trial reservation inputTokens outputTokens

/-- `_settle_unknown`. -/
def settleUnknown (reservation : BudgetReservation) : Process BudgetLedger BudgetError PUnit :=
  settle reservation reservation.inputTokens reservation.outputTokens

/-! ### What a section leaves -/

/-- The ledger after `_remove_reserved`, in a trial that exists. -/
def without (l : BudgetLedger) (r : BudgetReservation) (trial : TrialUsage) : BudgetLedger :=
  { l with
    reservedRequests := l.reservedRequests - 1
    reservedInput := l.reservedInput - r.inputTokens
    reservedOutput := l.reservedOutput - r.outputTokens
    trials := l.trials.insert r.trialId { trial with
      reservedRequests := trial.reservedRequests - 1
      reservedInputTokens := trial.reservedInputTokens - r.inputTokens
      reservedOutputTokens := trial.reservedOutputTokens - r.outputTokens } }

/-- The trial's counters after `_settle`. -/
def settledTrial (r : BudgetReservation) (trial : TrialUsage) (inputTokens outputTokens : Int) :
    TrialUsage where
  committedRequests := trial.committedRequests + 1
  reservedRequests := trial.reservedRequests - 1
  committedInputTokens := trial.committedInputTokens + inputTokens
  reservedInputTokens := trial.reservedInputTokens - r.inputTokens
  committedOutputTokens := trial.committedOutputTokens + outputTokens
  reservedOutputTokens := trial.reservedOutputTokens - r.outputTokens

/-- The ledger after `_settle`, but for the flag. -/
def settled (l : BudgetLedger) (r : BudgetReservation) (trial : TrialUsage)
    (inputTokens outputTokens : Int) : BudgetLedger :=
  { l with
    committedRequests := l.committedRequests + 1
    reservedRequests := l.reservedRequests - 1
    committedInput := l.committedInput + inputTokens
    reservedInput := l.reservedInput - r.inputTokens
    committedOutput := l.committedOutput + outputTokens
    reservedOutput := l.reservedOutput - r.outputTokens
    trials := l.trials.insert r.trialId (settledTrial r trial inputTokens outputTokens) }

variable {l : BudgetLedger} {r : BudgetReservation} {trial : TrialUsage}
  {inputTokens outputTokens : Int} {trialId : Identifier}

/-- What an accepted reservation changes. -/
lemma reserve_eq_ok {l' : BudgetLedger} :
    (reserve trialId inputTokens outputTokens).exec l = (.ok r, l') ↔
      0 < inputTokens ∧ 0 < outputTokens ∧
      ¬ l.Rejects ((l.trials.get? trialId).getD {}) inputTokens outputTokens ∧
      r = { trialId, inputTokens, outputTokens } ∧ l' = { l with
        reservedRequests := l.reservedRequests + 1
        reservedInput := l.reservedInput + inputTokens
        reservedOutput := l.reservedOutput + outputTokens
        trials := l.trials.insert trialId { (l.trials.get? trialId).getD {} with
          reservedRequests := ((l.trials.get? trialId).getD {}).reservedRequests + 1
          reservedInputTokens := ((l.trials.get? trialId).getD {}).reservedInputTokens + inputTokens
          reservedOutputTokens :=
            ((l.trials.get? trialId).getD {}).reservedOutputTokens + outputTokens } } := by
  rw [reserve, exec_transact_eq_ok]
  simp only [raiseIf_bind_eq_ok, pure_eq_ok, Prod.mk.injEq, not_le]
  constructor
  · rintro ⟨hinput, houtput, hfits, rfl, rfl⟩
    exact ⟨hinput, houtput, hfits, rfl, rfl⟩
  · rintro ⟨hinput, houtput, hfits, rfl, rfl⟩
    exact ⟨hinput, houtput, hfits, rfl, rfl⟩

/-- A refused reservation changes nothing. -/
lemma reserve_eq_error {l' : BudgetLedger}
    {e : BudgetError} (h : (reserve trialId inputTokens outputTokens).exec l = (.error e, l')) :
    l' = l := by
  simp only [reserve, transact, exec] at h
  split at h
  · cases h
  · cases h
    rfl

lemma exec_changeTrial (change : TrialUsage → TrialUsage)
    (trial : TrialUsage) (h : l.trials.get? trialId = some trial) :
    (changeTrial trialId change).exec l =
      (.ok (change trial), { l with trials := l.trials.insert trialId (change trial) }) := by
  apply exec_transact_ok
  simp only [h, orRaise, ok_bind]
  rfl

lemma exec_removeReserved (h : l.trials.get? r.trialId = some trial) :
    (removeReserved r).exec l = (.ok ⟨⟩, l.without r trial) := by
  unfold removeReserved
  rw [exec_bind_ok (exec_alter _ _)]
  refine (exec_bind_ok (exec_changeTrial _ trial ?_)).trans rfl
  exact h

theorem exec_settle (h : l.trials.get? r.trialId = some trial)
    (hinput : 0 ≤ inputTokens) (houtput : 0 ≤ outputTokens) :
    (settle r inputTokens outputTokens).exec l =
      (flagOverrun (settledTrial r trial inputTokens outputTokens) r inputTokens
        outputTokens).exec (l.settled r trial inputTokens outputTokens) := by
  have hin : raiseIf (inputTokens < 0) BudgetError.inputUsage = .ok ⟨⟩ :=
    raiseIf_eq_ok.mpr (not_lt.mpr hinput)
  have hout : raiseIf (outputTokens < 0) BudgetError.outputUsage = .ok ⟨⟩ :=
    raiseIf_eq_ok.mpr (not_lt.mpr houtput)
  unfold settle
  rw [hin, hout, exec_bind_ok (exec_ofExcept _ _), exec_bind_ok (exec_ofExcept _ _),
    exec_bind_ok (exec_removeReserved h), exec_bind_ok (exec_alter _ _)]
  refine (exec_bind_ok (exec_changeTrial _ _ (Dict.get?_insert_self _ _ _))).trans ?_
  simp only [without, settled, settledTrial, Dict.insert_insert]

end BudgetLedger

namespace BudgetReservation

def markDispatched (r : BudgetReservation) : Except BudgetError BudgetReservation := do
  raiseIf (r.settled ∨ r.dispatched) .dispatchState
  pure { r with dispatched := true }

/-- The section of `settle` and of `settle_unknown` under the reservation's own lock. -/
def markSettled (r : BudgetReservation) : Except BudgetError BudgetReservation := do
  raiseIf (r.settled ∨ ¬ r.dispatched) .settleState
  pure { r with settled := true }

/-- The section of `cancel` under the reservation's own lock. -/
def markCancelled (r : BudgetReservation) : Except BudgetError BudgetReservation := do
  raiseIf (r.settled ∨ r.dispatched) .cancelState
  pure { r with settled := true }

end BudgetReservation

end EdaGym
