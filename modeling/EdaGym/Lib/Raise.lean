import Mathlib.Data.List.Forall2
import Mathlib.Data.List.Induction

/-!
# Guard ladders

A checked computation is a ladder of guards, each of which raises one error, followed by an
update. The lemmas below invert a ladder: it returns `r` exactly when no guard fires and the
update returns `r`.
-/

namespace EdaGym

universe u v w
variable {ε : Type u} {α : Type v} {β : Type w}

/-- `if c: raise e`. -/
def raiseIf (c : Prop) [Decidable c] (e : ε) : Except ε PUnit.{v + 1} :=
  if c then .error e else .ok ⟨⟩

/-- Read an optional value, raising `e` when it is absent. -/
def orRaise (x : Option α) (e : ε) : Except ε α :=
  match x with
  | some a => .ok a
  | none => .error e

@[simp] lemma raiseIf_eq_ok {c : Prop} [Decidable c] {e : ε} {u : PUnit.{v + 1}} :
    raiseIf c e = .ok u ↔ ¬ c := by
  by_cases h : c <;> simp [raiseIf, h]

@[simp] lemma orRaise_eq_ok {x : Option α} {e : ε} {a : α} :
    orRaise x e = .ok a ↔ x = some a := by
  cases x <;> simp [orRaise]

lemma bind_eq_ok {α β : Type v} {x : Except ε α} {f : α → Except ε β} {r : β} :
    (x >>= f) = .ok r ↔ ∃ a, x = .ok a ∧ f a = .ok r := by
  cases x with
  | error e => simp [bind, Except.bind]
  | ok a => simp [bind, Except.bind]

lemma ok_bind {α β : Type v} (a : α) (f : α → Except ε β) : (Except.ok a >>= f) = f a := rfl

@[simp] lemma raiseIf_bind_eq_ok {α : Type v} {c : Prop} [Decidable c] {e : ε}
    {f : PUnit → Except ε α} {r : α} :
    (raiseIf c e >>= f) = .ok r ↔ ¬ c ∧ f ⟨⟩ = .ok r := by
  rw [bind_eq_ok]
  constructor
  · rintro ⟨_, h, hf⟩
    exact ⟨raiseIf_eq_ok.mp h, hf⟩
  · rintro ⟨h, hf⟩
    exact ⟨⟨⟩, raiseIf_eq_ok.mpr h, hf⟩

@[simp] lemma orRaise_bind_eq_ok {α β : Type v} {x : Option α} {e : ε}
    {f : α → Except ε β} {r : β} :
    (orRaise x e >>= f) = .ok r ↔ ∃ a, x = some a ∧ f a = .ok r := by
  simp [bind_eq_ok]

@[simp] lemma pure_eq_ok {a r : α} : (pure a : Except ε α) = .ok r ↔ a = r := by
  simp [pure, Except.pure]

lemma Except.map_eq_ok_iff {α β : Type v} {f : α → β} {x : Except ε α} {r : β} :
    f <$> x = .ok r ↔ ∃ a, x = .ok a ∧ f a = r := by
  cases x <;> simp [Functor.map, Except.map]

lemma Except.mapError_eq_ok_iff {ε' : Type*} {f : ε → ε'} {x : Except ε α} {a : α} :
    x.mapError f = .ok a ↔ x = .ok a := by
  cases x <;> simp [Except.mapError]

lemma Except.exists_of_isOk {x : Except ε α} (h : x.isOk = true) : ∃ a, x = .ok a := by
  cases x with
  | error e => cases h
  | ok a => exact ⟨a, rfl⟩

/-- A checked map returns the list of what each element returns. -/
lemma mapM_eq_ok_iff {α : Type u} {β : Type v} {f : α → Except ε β} {xs : List α} {ys : List β} :
    xs.mapM f = .ok ys ↔ List.Forall₂ (fun x y => f x = .ok y) xs ys := by
  induction xs generalizing ys with
  | nil =>
    rw [List.mapM_nil, pure_eq_ok, List.forall₂_nil_left_iff, eq_comm]
  | cons x xs ih =>
    simp only [List.mapM_cons, bind_eq_ok, pure_eq_ok, ih, List.forall₂_cons_left_iff]
    constructor
    · rintro ⟨y, hy, ys', hys, rfl⟩
      exact ⟨y, ys', hy, hys, rfl⟩
    · rintro ⟨y, ys', hy, hys, rfl⟩
      exact ⟨y, hy, ys', hys, rfl⟩

lemma mapM_eq_ok_iff_map {α : Type u} {β : Type v} {f : α → Except ε β} {admits : α → Prop}
    {g : α → β} (h : ∀ x y, f x = .ok y ↔ admits x ∧ g x = y) {xs : List α} {ys : List β} :
    xs.mapM f = .ok ys ↔ (∀ x ∈ xs, admits x) ∧ xs.map g = ys := by
  induction xs generalizing ys with
  | nil => simp [pure_eq_ok]
  | cons x xs ih =>
    simp only [List.mapM_cons, bind_eq_ok, pure_eq_ok, h, ih, List.forall_mem_cons, List.map_cons]
    constructor
    · rintro ⟨_, ⟨hx, rfl⟩, _, ⟨hxs, rfl⟩, rfl⟩
      exact ⟨⟨hx, hxs⟩, rfl⟩
    · rintro ⟨⟨hx, hxs⟩, rfl⟩
      exact ⟨_, ⟨hx, rfl⟩, _, ⟨hxs, rfl⟩, rfl⟩

lemma exists_mapM_eq_ok {α : Type u} {β : Type v} {f : α → Except ε β} {xs : List α}
    (h : ∀ x ∈ xs, ∃ y, f x = .ok y) : ∃ ys, xs.mapM f = .ok ys := by
  induction xs with
  | nil => exact ⟨[], rfl⟩
  | cons x xs ih =>
    obtain ⟨y, hy⟩ := h x List.mem_cons_self
    obtain ⟨ys, hys⟩ := ih fun x' hx' => h x' (List.mem_cons_of_mem _ hx')
    exact ⟨y :: ys, mapM_eq_ok_iff.mpr (List.Forall₂.cons hy (mapM_eq_ok_iff.mp hys))⟩

lemma mapM_congr {α : Type u} {β : Type v} {f g : α → Except ε β} {xs : List α}
    (h : ∀ x ∈ xs, f x = g x) : xs.mapM f = xs.mapM g := by
  induction xs with
  | nil => rfl
  | cons x xs ih =>
    rw [List.forall_mem_cons] at h
    rw [List.mapM_cons, List.mapM_cons, h.1, ih h.2]

lemma mapM_fixed {α : Type u} {f : α → Except ε α} {xs : List α} (h : ∀ x ∈ xs, f x = .ok x) :
    xs.mapM f = .ok xs := by
  rw [mapM_eq_ok_iff, List.forall₂_same]
  exact h

lemma exists_of_mem_mapM {α : Type u} {β : Type v} {f : α → Except ε β} {xs : List α}
    {ys : List β} {y : β} (h : xs.mapM f = .ok ys) (hy : y ∈ ys) : ∃ x ∈ xs, f x = .ok y := by
  have hforall := mapM_eq_ok_iff.mp h
  clear h
  induction hforall with
  | nil => simp at hy
  | @cons x y' xs ys hxy _ ih =>
    rcases List.mem_cons.mp hy with rfl | hy
    · exact ⟨x, List.mem_cons_self, hxy⟩
    · obtain ⟨x', hx', hfx'⟩ := ih hy
      exact ⟨x', List.mem_cons_of_mem _ hx', hfx'⟩

lemma mapM_ok_of_mem {α : Type u} {β : Type v} {f : α → Except ε β} {xs : List α}
    {ys : List β} {x : α} (h : xs.mapM f = .ok ys) (hx : x ∈ xs) : ∃ y ∈ ys, f x = .ok y := by
  have hforall := mapM_eq_ok_iff.mp h
  clear h
  induction hforall with
  | nil => simp at hx
  | @cons x' y xs ys hxy _ ih =>
    rcases List.mem_cons.mp hx with rfl | hx
    · exact ⟨y, List.mem_cons_self, hxy⟩
    · obtain ⟨y', hy', hfy'⟩ := ih hx
      exact ⟨y', List.mem_cons_of_mem _ hy', hfy'⟩

/-! ### Folds of checked steps -/

section Fold

variable {σ : Type v} {step : σ → α → Except ε σ}

/-- Run the checked step over a list, stopping at the first error. -/
def foldSteps (step : σ → α → Except ε σ) : σ → List α → Except ε σ
  | s, [] => .ok s
  | s, a :: as => step s a >>= fun s' => foldSteps step s' as

@[simp] lemma foldSteps_nil (s : σ) : foldSteps step s [] = .ok s := rfl

lemma foldSteps_cons_eq_ok {s s' : σ} {a : α} {as : List α} :
    foldSteps step s (a :: as) = .ok s' ↔
      ∃ m, step s a = .ok m ∧ foldSteps step m as = .ok s' :=
  bind_eq_ok

lemma foldSteps_append_eq_ok {s s' : σ} {as bs : List α} :
    foldSteps step s (as ++ bs) = .ok s' ↔
      ∃ m, foldSteps step s as = .ok m ∧ foldSteps step m bs = .ok s' := by
  induction as generalizing s with
  | nil => simp
  | cons a as ih =>
    simp only [List.cons_append, foldSteps_cons_eq_ok, ih]
    constructor
    · rintro ⟨m, hm, m', hm', h⟩
      exact ⟨m', ⟨m, hm, hm'⟩, h⟩
    · rintro ⟨m', ⟨m, hm, hm'⟩, h⟩
      exact ⟨m, hm, m', hm', h⟩

lemma foldSteps_concat_eq_ok {s s' : σ} {as : List α} {a : α} :
    foldSteps step s (as ++ [a]) = .ok s' ↔
      ∃ m, foldSteps step s as = .ok m ∧ step m a = .ok s' := by
  rw [foldSteps_append_eq_ok]
  constructor
  · rintro ⟨m, hm, h⟩
    obtain ⟨m', hm', h'⟩ := foldSteps_cons_eq_ok.mp h
    cases h'
    exact ⟨m, hm, hm'⟩
  · rintro ⟨m, hm, h⟩
    exact ⟨m, hm, foldSteps_cons_eq_ok.mpr ⟨s', h, rfl⟩⟩

/-- One more step after an accepted list. -/
lemma foldSteps_concat {s m : σ} {as : List α} (h : foldSteps step s as = .ok m) (a : α) :
    foldSteps step s (as ++ [a]) = step m a := by
  cases hstep : step m a with
  | ok s' => exact foldSteps_concat_eq_ok.mpr ⟨m, h, hstep⟩
  | error e =>
    induction as generalizing s with
    | nil =>
      cases h
      simp [foldSteps, hstep, bind, Except.bind]
    | cons b as ih =>
      obtain ⟨s', hb, hrest⟩ := foldSteps_cons_eq_ok.mp h
      rw [List.cons_append, foldSteps, hb]
      exact ih hrest

/-- What every step keeps, a whole run keeps; `P` reads the events consumed so far. -/
theorem foldSteps_induction {P : List α → σ → Prop} {s : σ}
    (hstep : ∀ pre m a m', P pre m → step m a = .ok m' → P (pre ++ [a]) m')
    (hinit : P [] s) {as : List α} {s' : σ} (h : foldSteps step s as = .ok s') : P as s' := by
  induction as using List.reverseRecOn generalizing s' with
  | nil =>
    cases h
    exact hinit
  | append_singleton as a ih =>
    obtain ⟨m, hm, ha⟩ := foldSteps_concat_eq_ok.mp h
    exact hstep as m a s' (ih hm) ha

lemma foldSteps_congr {step' : σ → α → Except ε σ} {as : List α}
    (h : ∀ a ∈ as, ∀ s, step s a = step' s a) (s : σ) :
    foldSteps step s as = foldSteps step' s as := by
  induction as generalizing s with
  | nil => rfl
  | cons a as ih =>
    rw [List.forall_mem_cons] at h
    rw [foldSteps, foldSteps, h.1]
    congr 1
    funext s'
    exact ih h.2 s'

/-- Every prefix of an accepted list is accepted. -/
lemma foldSteps_take {s s' : σ} {as : List α} (h : foldSteps step s as = .ok s') (i : Nat) :
    ∃ m, foldSteps step s (as.take i) = .ok m := by
  rw [← List.take_append_drop i as] at h
  obtain ⟨m, hm, -⟩ := foldSteps_append_eq_ok.mp h
  exact ⟨m, hm⟩

/-- An accepted list makes a step at each of its positions, from the state of the prefix. -/
lemma foldSteps_at {s s' : σ} {as : List α} {i : Nat} {a : α} (h : foldSteps step s as = .ok s')
    (ha : as[i]? = some a) :
    ∃ m m', foldSteps step s (as.take i) = .ok m ∧ step m a = .ok m' := by
  obtain ⟨m', hm'⟩ := foldSteps_take h (i + 1)
  rw [List.take_add_one, ha, Option.toList_some] at hm'
  obtain ⟨m, hm, hstep⟩ := foldSteps_concat_eq_ok.mp hm'
  exact ⟨m, m', hm, hstep⟩

/-- A fold whose steps check `P` and then update by `f` checks `P` at every position. -/
theorem foldSteps_eq_ok_iff {P : σ → α → Prop} {f : σ → α → σ}
    (hstep : ∀ s a s', step s a = .ok s' ↔ P s a ∧ s' = f s a) {s s' : σ} {as : List α} :
    foldSteps step s as = .ok s' ↔
      (∀ pre a post, as = pre ++ a :: post → P (pre.foldl f s) a) ∧ s' = as.foldl f s := by
  induction as generalizing s with
  | nil => simp [eq_comm]
  | cons b as ih =>
    rw [foldSteps_cons_eq_ok]
    simp only [hstep, ih]
    constructor
    · rintro ⟨_, ⟨hb, rfl⟩, hall, rfl⟩
      refine ⟨?_, rfl⟩
      intro pre a post h
      cases pre with
      | nil =>
        cases h
        exact hb
      | cons c pre =>
        cases h
        exact hall pre a post rfl
    · rintro ⟨hall, rfl⟩
      refine ⟨_, ⟨hall [] b as rfl, rfl⟩, ?_, rfl⟩
      intro pre a post h
      exact hall (b :: pre) a post (by rw [h, List.cons_append])

/-- A fold that only checks accepts a list exactly when it accepts every element. -/
lemma foldSteps_unit_eq_ok {α : Type} {check : Unit → α → Except ε Unit} {as : List α}
    {u : Unit} : foldSteps check ⟨⟩ as = .ok u ↔ ∀ a ∈ as, check ⟨⟩ a = .ok ⟨⟩ := by
  induction as with
  | nil => simp
  | cons a as ih =>
    rw [foldSteps_cons_eq_ok, List.forall_mem_cons]
    constructor
    · rintro ⟨_, h, h'⟩
      exact ⟨h, ih.mp h'⟩
    · rintro ⟨h, h'⟩
      exact ⟨⟨⟩, h, ih.mpr h'⟩

end Fold

end EdaGym
