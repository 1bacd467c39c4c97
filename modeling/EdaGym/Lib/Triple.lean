import EdaGym.Lib.Process
import Mathlib.Data.List.Basic

/-!
# Triples of processes

`Triple P p Q` holds when a process that starts in a state with `P` ends, by returning or raising,
with an outcome and in a state that satisfy `Q`. A process `Keeps` a predicate that holds after it
whenever it held before, and `Moves` along a relation that holds between the states before and
after.
-/

namespace EdaGym

universe u

namespace Process

variable {σ ε α β : Type u}

def Triple (P : σ → Prop) (p : Process σ ε α) (Q : Except ε α → σ → Prop) : Prop :=
  ∀ s, P s → Q (p.exec s).1 (p.exec s).2

/-- `try: p finally: cleanup`. -/
def finallyDo (p : Process σ ε α) (cleanup : Process σ ε PUnit) : Process σ ε α := fun s =>
  match p.exec s with
  | (x, s') =>
    match cleanup.exec s' with
    | (.ok _, s'') => (x, s'')
    | (.error e, s'') => (.error e, s'')

lemma exec_finallyDo_eq_ok {p : Process σ ε α} {cleanup : Process σ ε PUnit} {s s'' : σ} {a : α} :
    (finallyDo p cleanup).exec s = (.ok a, s'') ↔
      ∃ s', p.exec s = (.ok a, s') ∧ cleanup.exec s' = (.ok ⟨⟩, s'') := by
  obtain ⟨x, s', hp⟩ : ∃ x s', p.exec s = (x, s') := ⟨_, _, rfl⟩
  obtain ⟨y, t, hq⟩ : ∃ y t, cleanup.exec s' = (y, t) := ⟨_, _, rfl⟩
  simp only [exec] at hp hq
  cases y <;> simp [finallyDo, exec, hp, hq]

/-- The outcome of `p` as a value. -/
def attempt (p : Process σ ε α) : Process σ ε (Except ε α) := fun s =>
  (.ok (p.exec s).1, (p.exec s).2)

/-- Do `f` for each element in order. -/
def forEach (f : α → Process σ ε PUnit) : List α → Process σ ε PUnit
  | [] => pure ⟨⟩
  | a :: as => do
    f a
    forEach f as

section Triple

variable {P P' : σ → Prop} {Q Q' : Except ε α → σ → Prop} {p : Process σ ε α}

lemma Triple.mono (h : Triple P p Q) (hP : ∀ s, P' s → P s) (hQ : ∀ x s, Q x s → Q' x s) :
    Triple P' p Q' := fun s hs => hQ _ _ (h s (hP s hs))

lemma triple_pure {a : α} (h : ∀ s, P s → Q (.ok a) s) : Triple P (pure a) Q := h

lemma triple_ofExcept {x : Except ε α} (h : ∀ s, P s → Q x s) : Triple P (ofExcept x) Q := h

lemma triple_bind {R : Except ε α → σ → Prop} {f : α → Process σ ε β}
    {Q : Except ε β → σ → Prop} (hp : Triple P p R) (hf : ∀ a, Triple (R (.ok a)) (f a) Q)
    (herror : ∀ e s, R (.error e) s → Q (.error e) s) : Triple P (p >>= f) Q := by
  intro s hs
  have hR := hp s hs
  obtain ⟨x, s', hexec⟩ : ∃ x s', p.exec s = (x, s') := ⟨_, _, rfl⟩
  rw [hexec] at hR
  cases x with
  | error e =>
    rw [exec_bind_error hexec]
    exact herror e s' hR
  | ok a =>
    rw [exec_bind_ok hexec]
    exact hf a s' hR

/-- What a checked value says is known afterwards. -/
lemma triple_ofExcept_bind {x : Except ε α} {f : α → Process σ ε β} {Q : Except ε β → σ → Prop}
    (hf : ∀ a, x = .ok a → Triple P (f a) Q) (herror : ∀ e s, P s → Q (.error e) s) :
    Triple P (ofExcept x >>= f) Q := by
  intro s hs
  cases x with
  | error e => exact herror e s hs
  | ok a =>
    rw [exec_bind_ok (exec_ofExcept _ s)]
    exact hf a rfl s hs

lemma triple_finallyDo {R : Except ε α → σ → Prop} {cleanup : Process σ ε PUnit}
    (hp : Triple P p R)
    (hcleanup : ∀ x, Triple (R x) cleanup fun y s => Q (y.bind fun _ => x) s) :
    Triple P (finallyDo p cleanup) Q := by
  intro s hs
  have hQ := hcleanup _ _ (hp s hs)
  simp only [finallyDo, exec] at hQ ⊢
  split
  · next h => rwa [h] at hQ
  · next h => rwa [h] at hQ

end Triple

/-! ### Kept predicates -/

/-- What holds before holds after, however the process ends. -/
def Keeps (P : σ → Prop) (p : Process σ ε α) : Prop := Triple P p fun _ s => P s

section Keeps

variable {P : σ → Prop} {p : Process σ ε α}

lemma keeps_pure (a : α) : Keeps P (pure a : Process σ ε α) := triple_pure fun _ h => h

lemma keeps_ofExcept (x : Except ε α) : Keeps P (ofExcept x : Process σ ε α) :=
  triple_ofExcept fun _ h => h

lemma Keeps.bind {f : α → Process σ ε β} (hp : Keeps P p) (hf : ∀ a, Keeps P (f a)) :
    Keeps P (p >>= f) := triple_bind hp hf fun _ _ h => h

lemma keeps_ofExcept_bind {x : Except ε α} {f : α → Process σ ε β}
    (hf : ∀ a, x = .ok a → Keeps P (f a)) : Keeps P (ofExcept x >>= f) :=
  triple_ofExcept_bind hf fun _ _ h => h

lemma Keeps.finallyDo {cleanup : Process σ ε PUnit} (hp : Keeps P p) (hq : Keeps P cleanup) :
    Keeps P (finallyDo p cleanup) := triple_finallyDo hp fun _ => hq

lemma Keeps.forEach {f : α → Process σ ε PUnit} {as : List α} (hf : ∀ a ∈ as, Keeps P (f a)) :
    Keeps P (forEach f as) := by
  induction as with
  | nil => exact keeps_pure _
  | cons a as ih =>
    exact (hf a List.mem_cons_self).bind fun _ => ih fun b hb => hf b (List.mem_cons_of_mem _ hb)

end Keeps

/-! ### Relations between the states before and after -/

section Moves

variable {R : σ → σ → Prop} {p : Process σ ε α}

def Moves (R : σ → σ → Prop) (p : Process σ ε α) : Prop := ∀ s, R s (p.exec s).2

section Refl

variable [Std.Refl R]

lemma moves_pure (a : α) : Moves R (pure a : Process σ ε α) := fun s => Std.Refl.refl s

lemma moves_ofExcept (x : Except ε α) : Moves R (ofExcept x : Process σ ε α) :=
  fun s => Std.Refl.refl s

end Refl

variable [IsTrans σ R]

lemma Moves.bind {f : α → Process σ ε β} (hp : Moves R p) (hf : ∀ a, Moves R (f a)) :
    Moves R (p >>= f) := by
  intro s
  have hR := hp s
  obtain ⟨x, s', hexec⟩ : ∃ x s', p.exec s = (x, s') := ⟨_, _, rfl⟩
  rw [hexec] at hR
  cases x with
  | error e => rwa [exec_bind_error hexec]
  | ok a =>
    rw [exec_bind_ok hexec]
    exact IsTrans.trans _ _ _ hR (hf a s')

end Moves

end Process

end EdaGym
