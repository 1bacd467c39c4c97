import Mathlib.Tactic.Lemma

/-!
# Computations that keep their state when they raise

A process reads and changes a state and ends by returning or raising. Other than in `Except` over a
state, what was written before an exception stays written, and a handler sees it.
-/

namespace EdaGym

universe u

abbrev Process (σ ε α : Type u) := ExceptT ε (StateM σ) α

namespace Process

variable {σ ε α β : Type u}

/-- How `p` ends from the state `s`. -/
def exec (p : Process σ ε α) (s : σ) : Except ε α × σ := p s

/-- A transaction: when it is refused nothing changes. -/
def transact (f : σ → Except ε (α × σ)) : Process σ ε α := fun s =>
  match f s with
  | .ok (a, s') => (.ok a, s')
  | .error e => (.error e, s)

/-- A computation without a state. -/
def ofExcept (x : Except ε α) : Process σ ε α := fun s => (x, s)

/-- A change that cannot fail. -/
def alter (f : σ → σ) : Process σ ε PUnit := fun s => (.ok ⟨⟩, f s)

/-- `try: p; except e: cleanup(e); raise`. -/
def onRaise (p : Process σ ε α) (cleanup : ε → Process σ ε PUnit) : Process σ ε α :=
  tryCatch p fun e => do
    cleanup e
    throw e

variable {p : Process σ ε α}

lemma exists_exec_eq {s : σ} {x : Except ε α} (h : (p.exec s).1 = x) :
    ∃ s', p.exec s = (x, s') := ⟨_, Prod.ext h rfl⟩

@[simp] lemma exec_pure (a : α) (s : σ) : (pure a : Process σ ε α).exec s = (.ok a, s) := rfl

@[simp] lemma exec_throw (e : ε) (s : σ) : (throw e : Process σ ε α).exec s = (.error e, s) := rfl

@[simp] lemma exec_ofExcept (x : Except ε α) (s : σ) :
    (ofExcept x : Process σ ε α).exec s = (x, s) := rfl

@[simp] lemma exec_alter (f : σ → σ) (s : σ) :
    (alter f : Process σ ε PUnit).exec s = (.ok ⟨⟩, f s) := rfl

variable {s s' : σ} {f : σ → Except ε (α × σ)}

lemma exec_transact_ok {a : α} (h : f s = .ok (a, s')) : (transact f).exec s = (.ok a, s') := by
  simp only [transact, exec, h]

lemma exec_transact_error {s : σ} {e : ε} (h : f s = .error e) :
    (transact f).exec s = (.error e, s) := by
  simp only [transact, exec, h]

lemma exec_bind_ok {f : α → Process σ ε β} {a : α}
    (h : p.exec s = (.ok a, s')) : (p >>= f).exec s = (f a).exec s' := by
  simp only [exec] at h
  simp only [exec, bind, ExceptT.bind, ExceptT.mk, StateT.bind, h]
  rfl

lemma exec_bind_error {f : α → Process σ ε β} {e : ε}
    (h : p.exec s = (.error e, s')) : (p >>= f).exec s = (.error e, s') := by
  simp only [exec] at h
  simp only [exec, bind, ExceptT.bind, ExceptT.mk, StateT.bind, h]
  rfl

lemma exec_bind_eq_ok {f : α → Process σ ε β} {b : β} :
    (p >>= f).exec s = (.ok b, s') ↔
      ∃ a m, p.exec s = (.ok a, m) ∧ (f a).exec m = (.ok b, s') := by
  constructor
  · intro h
    obtain ⟨x, m, hp⟩ : ∃ x m, p.exec s = (x, m) := ⟨_, _, rfl⟩
    cases x with
    | error e =>
      rw [exec_bind_error hp] at h
      cases h
    | ok a =>
      rw [exec_bind_ok hp] at h
      exact ⟨a, m, hp, h⟩
  · rintro ⟨a, m, hp, hf⟩
    rw [exec_bind_ok hp, hf]

lemma exec_transact_eq_ok {a : α} : (transact f).exec s = (.ok a, s') ↔ f s = .ok (a, s') := by
  cases h : f s with
  | error e => simp [exec_transact_error h]
  | ok r => simp [exec_transact_ok (f := f) (show f s = .ok (r.1, r.2) from h), Prod.ext_iff]

lemma exec_tryCatch_ok {handler : ε → Process σ ε α} {a : α}
    (h : p.exec s = (.ok a, s')) : (tryCatch p handler).exec s = (.ok a, s') := by
  simp only [exec] at h
  simp only [exec, tryCatch, tryCatchThe, MonadExceptOf.tryCatch, ExceptT.tryCatch, ExceptT.mk,
    bind, StateT.bind, h]
  rfl

lemma exec_tryCatch_error {handler : ε → Process σ ε α} {e : ε}
    (h : p.exec s = (.error e, s')) : (tryCatch p handler).exec s = (handler e).exec s' := by
  simp only [exec] at h
  simp only [exec, tryCatch, tryCatchThe, MonadExceptOf.tryCatch, ExceptT.tryCatch, ExceptT.mk,
    bind, StateT.bind, h]

lemma exec_onRaise_ok {cleanup : ε → Process σ ε PUnit} {a : α}
    (h : p.exec s = (.ok a, s')) : (p.onRaise cleanup).exec s = (.ok a, s') :=
  exec_tryCatch_ok h

/-- What the clean-up has written stays, however it ends. -/
lemma exec_onRaise_error {cleanup : ε → Process σ ε PUnit} {s s' s'' : σ}
    {e : ε} {x : Except ε PUnit} (h : p.exec s = (.error e, s'))
    (hcleanup : (cleanup e).exec s' = (x, s'')) :
    ∃ e', (p.onRaise cleanup).exec s = (.error e', s'') := by
  rw [onRaise, exec_tryCatch_error h]
  cases x with
  | error e' => exact ⟨e', exec_bind_error hcleanup⟩
  | ok u => exact ⟨e, exec_bind_ok hcleanup⟩

end Process

end EdaGym
