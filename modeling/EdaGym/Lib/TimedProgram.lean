import Mathlib.Order.Basic
import Mathlib.Tactic.Lemma

/-!
# Programs that wait for processes

A program asks its surroundings and runs processes, one after another. A process takes at most the
time after which it is killed, and nothing else takes time; the program may stop anywhere, as it
does when something raises. When the watched processes of a program have all ended at the latest is
read off the program itself.
-/

namespace EdaGym

inductive TimedProgram (π α : Type)
  | ret (a : α)
  /-- A question to the surroundings. -/
  | ask (k : Bool → TimedProgram π α)
  /-- A process; the answer says how it has ended. -/
  | run (p : π) (k : Bool → TimedProgram π α)

namespace TimedProgram

variable {π α β : Type}

protected def bind : TimedProgram π α → (α → TimedProgram π β) → TimedProgram π β
  | ret a, f => f a
  | ask k, f => ask fun b => (k b).bind f
  | run p k, f => run p fun b => (k b).bind f

instance : Monad (TimedProgram π) where
  pure := ret
  bind := TimedProgram.bind

def query : TimedProgram π Bool := ask ret

def perform (p : π) : TimedProgram π Bool := run p ret

@[simp] lemma query_bind (f : Bool → TimedProgram π α) : (query >>= f) = ask f := rfl

@[simp] lemma perform_bind (p : π) (f : Bool → TimedProgram π α) :
    (perform p >>= f) = run p f := rfl

@[simp] lemma pure_bind' (a : α) (f : α → TimedProgram π β) : (pure a >>= f) = f a := rfl

@[simp] lemma ask_bind (k : Bool → TimedProgram π α) (f : α → TimedProgram π β) :
    (ask k >>= f) = ask fun b => k b >>= f := rfl

@[simp] lemma run_bind (p : π) (k : Bool → TimedProgram π α) (f : α → TimedProgram π β) :
    (run p k >>= f) = run p fun b => k b >>= f := rfl

lemma bind_assoc' {γ : Type} (p : TimedProgram π α) (f : α → TimedProgram π β)
    (g : β → TimedProgram π γ) : (p >>= f >>= g) = p >>= fun a => f a >>= g := by
  induction p with
  | ret => rfl
  | ask k ih =>
    simp only [ask_bind, ih]
  | run p k ih =>
    simp only [run_bind, ih]

/-! ### Behaviours -/

/-- The processes that have run, each with the time it took. -/
inductive Runs (limit : π → Nat) : TimedProgram π α → List (π × Nat) → Prop
  | stop (p : TimedProgram π α) : Runs limit p []
  | ask {k : Bool → TimedProgram π α} {trace : List (π × Nat)} (b : Bool)
      (h : Runs limit (k b) trace) : Runs limit (.ask k) trace
  | run {p : π} {k : Bool → TimedProgram π α} {trace : List (π × Nat)} {time : Nat} (b : Bool)
      (htime : time ≤ limit p) (h : Runs limit (k b) trace) :
      Runs limit (.run p k) ((p, time) :: trace)

/-- When each process has ended. -/
def ends (start : Nat) : List (π × Nat) → List (π × Nat)
  | [] => []
  | (p, time) :: trace => (p, start + time) :: ends (start + time) trace

/-- Every watched process ends before `span` is over. -/
def EndsWithin (limit : π → Nat) (watched : π → Bool) (p : TimedProgram π α) (span : Nat) : Prop :=
  ∀ trace, p.Runs limit trace → ∀ x ∈ ends 0 trace, watched x.1 = true → x.2 < span

variable (limit : π → Nat) (watched : π → Bool)

/-- The same, when every process takes as long as it may. -/
def Meets : TimedProgram π α → Nat → Prop
  | ret _, _ => True
  | ask k, span => ∀ b, (k b).Meets span
  | run p k, span =>
    (watched p = true → limit p < span) ∧ ∀ b, (k b).Meets (span - limit p)

variable {limit watched}

@[simp] lemma meets_pure (a : α) (span : Nat) :
    (pure a : TimedProgram π α).Meets limit watched span ↔ True := Iff.rfl

@[simp] lemma meets_ask (k : Bool → TimedProgram π α) (span : Nat) :
    (ask k).Meets limit watched span ↔
      (k false).Meets limit watched span ∧ (k true).Meets limit watched span :=
  Bool.forall_bool

@[simp] lemma meets_run (p : π) (k : Bool → TimedProgram π α) (span : Nat) :
    (run p k).Meets limit watched span ↔ (watched p = true → limit p < span) ∧
      (k false).Meets limit watched (span - limit p) ∧
      (k true).Meets limit watched (span - limit p) :=
  and_congr_right fun _ => Bool.forall_bool

lemma Meets.mono {p : TimedProgram π α} {span span' : Nat} (h : p.Meets limit watched span)
    (hle : span ≤ span') : p.Meets limit watched span' := by
  induction p generalizing span span' with
  | ret => trivial
  | ask k ih => exact fun b => ih b (h b) hle
  | run p k ih =>
    exact ⟨fun hp => Nat.lt_of_lt_of_le (h.1 hp) hle,
      fun b => ih b (h.2 b) (Nat.sub_le_sub_right hle _)⟩

lemma ends_add (start later : Nat) (trace : List (π × Nat)) :
    ends (start + later) trace = (ends later trace).map fun x => (x.1, start + x.2) := by
  induction trace generalizing later with
  | nil => rfl
  | cons x trace ih => rw [ends, ends, List.map_cons, ← ih, Nat.add_assoc]

lemma forall_mem_ends_cons {p : π} {time span : Nat} {trace : List (π × Nat)} :
    (∀ x ∈ ends 0 ((p, time) :: trace), watched x.1 = true → x.2 < span) ↔
      (watched p = true → time < span) ∧
        ∀ x ∈ ends 0 trace, watched x.1 = true → time + x.2 < span := by
  have hends : ends 0 ((p, time) :: trace) =
      (p, time) :: (ends 0 trace).map fun x => (x.1, time + x.2) := by
    rw [ends, Nat.zero_add, ← ends_add, Nat.add_zero]
  rw [hends, List.forall_mem_cons]
  simp only [List.mem_map, forall_exists_index, and_imp, forall_apply_eq_imp_iff₂]

/-- The slowest behaviours decide. -/
theorem endsWithin_iff {p : TimedProgram π α} {span : Nat} :
    p.EndsWithin limit watched span ↔ p.Meets limit watched span := by
  induction p generalizing span with
  | ret =>
    refine iff_of_true (fun trace h => ?_) trivial
    cases h
    exact fun x hx => by cases hx
  | ask k ih =>
    constructor
    · exact fun h b => (ih b).mp fun trace htrace => h trace (.ask b htrace)
    · intro h trace htrace
      cases htrace with
      | stop => exact fun x hx => by cases hx
      | ask b htrace => exact (ih b).mpr (h b) _ htrace
  | run p k ih =>
    constructor
    · intro h
      refine ⟨?_, fun b => (ih b).mp fun trace htrace x hx hwatched => ?_⟩
      · exact (forall_mem_ends_cons.mp (h _ (.run true (Nat.le_refl _) (.stop _)))).1
      · have := (forall_mem_ends_cons.mp (h _ (.run b (Nat.le_refl _) htrace))).2 x hx hwatched
        omega
    · intro h trace htrace
      cases htrace with
      | stop => exact fun x hx => by cases hx
      | run b htime htrace =>
        refine forall_mem_ends_cons.mpr ⟨fun hp => Nat.lt_of_le_of_lt htime (h.1 hp),
          fun x hx hwatched => ?_⟩
        have := (ih b).mpr (h.2 b) _ htrace x hx hwatched
        omega

end TimedProgram

end EdaGym
