import Mathlib.Logic.Relation
import Mathlib.Tactic.Lemma

/-!
# Programs that share a world, one of them under a lock

A program is a tree of calls. At any time one program at most holds the lock, and others run without
it. Each can stop before any of its calls; a call that is a process of its own can outlive its
program, and keep the lock while it does. `Runs` is what has to be shown of a program once, against
everything that the rest may do meanwhile.
-/

namespace EdaGym

inductive Program (ι : Type) (ans : ι → Type) (α : Type)
  | ret (a : α)
  | raise
  | call (i : ι) (k : ans i → Program ι ans α)

variable {σ ι : Type} {ans : ι → Type} {α β : Type}

namespace Program

def bind : Program ι ans α → (α → Program ι ans β) → Program ι ans β
  | ret a, f => f a
  | raise, _ => raise
  | call i k, f => call i fun r => (k r).bind f

instance : Monad (Program ι ans) where
  pure := ret
  bind := bind

def perform (i : ι) : Program ι ans (ans i) := call i ret

def raiseUnless (c : Prop) [Decidable c] : Program ι ans Unit := if c then ret () else raise

def orFail : Option α → Program ι ans α
  | some a => ret a
  | none => raise

end Program

/-! ### Machines -/

/-- What calls and the surroundings do to a world, and which programs there are. -/
structure Setting (σ ι : Type) (ans : ι → Type) where
  exec : (i : ι) → σ → ans i → σ → Prop
  /-- The call is a process, which does not end with its program. -/
  lingers : ι → Bool
  /-- The process holds the lock until it ends. -/
  inherits : ι → Bool
  env : σ → σ → Prop
  locked : Program ι ans Unit → Prop
  free : Program ι ans Unit → Prop

structure Machine (σ ι : Type) (ans : ι → Type) where
  world : σ
  holder : Option (Program ι ans Unit) := none
  others : List (Program ι ans Unit) := []

namespace Setting

variable (S : Setting σ ι ans)

inductive Step : Machine σ ι ans → Machine σ ι ans → Prop
  | env {s s' : σ} (holder : Option (Program ι ans Unit)) (others : List (Program ι ans Unit))
      (h : S.env s s') : Step ⟨s, holder, others⟩ ⟨s', holder, others⟩
  | acquire (s : σ) (others : List (Program ι ans Unit)) {p : Program ι ans Unit} (h : S.locked p) :
      Step ⟨s, none, others⟩ ⟨s, some p, others⟩
  | spawn (s : σ) (holder : Option (Program ι ans Unit)) (others : List (Program ι ans Unit))
      {p : Program ι ans Unit} (h : S.free p) : Step ⟨s, holder, others⟩ ⟨s, holder, p :: others⟩
  | call {s s' : σ} (others : List (Program ι ans Unit)) {i : ι} {k : ans i → Program ι ans Unit}
      {r : ans i} (h : S.exec i s r s') :
      Step ⟨s, some (.call i k), others⟩ ⟨s', some (k r), others⟩
  /-- The program has come to its end, or it stops before it. -/
  | unlock (s : σ) (p : Program ι ans Unit) (others : List (Program ι ans Unit)) :
      Step ⟨s, some p, others⟩ ⟨s, none, others⟩
  /-- The program stops, and its last call keeps the lock. -/
  | inherit (s : σ) (others : List (Program ι ans Unit)) {i : ι} {k : ans i → Program ι ans Unit}
      (h : S.inherits i = true) :
      Step ⟨s, some (.call i k), others⟩ ⟨s, some (.call i fun _ => .raise), others⟩
  /-- The program stops, and its last call goes on without the lock. -/
  | linger (s : σ) (others : List (Program ι ans Unit)) {i : ι} {k : ans i → Program ι ans Unit}
      (h : S.lingers i = true) (hlock : S.inherits i = false) :
      Step ⟨s, some (.call i k), others⟩ ⟨s, none, (.call i fun _ => .raise) :: others⟩
  | otherCall {s s' : σ} (holder : Option (Program ι ans Unit))
      (before after : List (Program ι ans Unit)) {i : ι} {k : ans i → Program ι ans Unit}
      {r : ans i} (h : S.exec i s r s') :
      Step ⟨s, holder, before ++ .call i k :: after⟩ ⟨s', holder, before ++ k r :: after⟩
  | otherStop (s : σ) (holder : Option (Program ι ans Unit))
      (before after : List (Program ι ans Unit)) (p : Program ι ans Unit) :
      Step ⟨s, holder, before ++ p :: after⟩ ⟨s, holder, before ++ after⟩

/-! ### What is shown of programs -/

/-- What steps may do: under the lock, without it, and in the surroundings. -/
structure Moves (S : Setting σ ι ans) where
  inv : σ → Prop
  locked : σ → σ → Prop
  free : σ → σ → Prop
  inv_locked : ∀ s s', inv s → locked s s' → inv s'
  inv_free : ∀ s s', inv s → free s s' → inv s'
  inv_env : ∀ s s', inv s → S.env s s' → inv s'

variable {S} (M : S.Moves)

namespace Moves

/-- What may happen while the lock is held. -/
def Beside (s s' : σ) : Prop := M.free s s' ∨ S.env s s'

/-- What may happen at all. -/
def Around (s s' : σ) : Prop := M.locked s s' ∨ M.free s s' ∨ S.env s s'

lemma inv_around {s s' : σ} (h : M.inv s) (hstep : M.Around s s') : M.inv s' := by
  rcases hstep with hstep | hstep | hstep
  · exact M.inv_locked s s' h hstep
  · exact M.inv_free s s' h hstep
  · exact M.inv_env s s' h hstep

def Stable (R : σ → σ → Prop) (P : σ → Prop) : Prop := ∀ s s', M.inv s → R s s' → P s → P s'

/-- A call that outlives its program still does what programs without the lock may do. -/
def Lingers (i : ι) (P : σ → Prop) : Prop :=
  ∃ P' : σ → Prop, M.Stable M.Around P' ∧ (∀ s, M.inv s → P s → P' s) ∧
    ∀ s r s', M.inv s → P' s → S.exec i s r s' → M.free s s'

/-- From `P` on every call of the program is a move in `G`, and `Q` holds when it returns. Between
two calls stands an assertion that the moves in `R` keep. -/
def Runs (G R : σ → σ → Prop) (lingers : Bool) :
    Program ι ans α → (σ → Prop) → (α → σ → Prop) → Prop
  | .ret a, P, Q => ∀ s, M.inv s → P s → Q a s
  | .raise, _, _ => True
  | .call i k, P, Q =>
    (∀ s r s', M.inv s → P s → S.exec i s r s' → G s s') ∧
      (lingers = true → S.lingers i = true → S.inherits i = false → M.Lingers i P) ∧
      ∀ r, ∃ P', M.Stable R P' ∧ (∀ s s', M.inv s → P s → S.exec i s r s' → P' s') ∧
        Runs G R lingers (k r) P' Q

/-- What has to be shown of a program that runs under the lock. -/
def RunsLocked (p : Program ι ans α) (P : σ → Prop) (Q : α → σ → Prop) : Prop :=
  M.Runs M.locked M.Beside true p P Q

/-- What has to be shown of a program that runs without it. -/
def RunsFree (p : Program ι ans α) (P : σ → Prop) (Q : α → σ → Prop) : Prop :=
  M.Runs M.free M.Around false p P Q

variable {M} {G R : σ → σ → Prop} {lingers : Bool} {P P' : σ → Prop}

lemma stable_true : M.Stable R fun _ => True := fun _ _ _ _ _ => trivial

lemma Lingers.mono {i : ι} (h : M.Lingers i P') (hP : ∀ s, M.inv s → P s → P' s) :
    M.Lingers i P := by
  obtain ⟨P'', hstable, hP'', hfree⟩ := h
  exact ⟨P'', hstable, fun s hs hp => hP'' s hs (hP s hs hp), hfree⟩

variable {Q : α → σ → Prop}

lemma Runs.mono {p : Program ι ans α} (h : M.Runs G R lingers p P' Q)
    (hP : ∀ s, M.inv s → P s → P' s) : M.Runs G R lingers p P Q := by
  cases p with
  | ret a => exact fun s hs hp => h s hs (hP s hs hp)
  | raise => trivial
  | call i k =>
    obtain ⟨hmove, hlinger, hrest⟩ := h
    refine ⟨fun s r s' hs hp => hmove s r s' hs (hP s hs hp),
      fun hl hi hn => (hlinger hl hi hn).mono hP, fun r => ?_⟩
    obtain ⟨P'', hstable, hpost, hruns⟩ := hrest r
    exact ⟨P'', hstable, fun s s' hs hp => hpost s s' hs (hP s hs hp), hruns⟩

theorem Runs.bind {p : Program ι ans α} {f : α → Program ι ans β} {T : α → σ → Prop}
    {Q : β → σ → Prop} (h : M.Runs G R lingers p P T)
    (hf : ∀ a, M.Runs G R lingers (f a) (T a) Q) : M.Runs G R lingers (p.bind f) P Q := by
  induction p generalizing P with
  | ret a => exact (hf a).mono h
  | raise => trivial
  | call i k ih =>
    obtain ⟨hmove, hlinger, hrest⟩ := h
    refine ⟨hmove, hlinger, fun r => ?_⟩
    obtain ⟨P', hstable, hpost, hruns⟩ := hrest r
    exact ⟨P', hstable, hpost, ih r hruns⟩

lemma Runs.weaken {p : Program ι ans α} {Q Q' : α → σ → Prop} (h : M.Runs G R lingers p P Q)
    (hQ : ∀ a s, M.inv s → Q a s → Q' a s) : M.Runs G R lingers p P Q' := by
  induction p generalizing P with
  | ret a => exact fun s hs hp => hQ a s hs (h s hs hp)
  | raise => trivial
  | call i k ih =>
    obtain ⟨hmove, hlinger, hrest⟩ := h
    refine ⟨hmove, hlinger, fun r => ?_⟩
    obtain ⟨P', hstable, hpost, hruns⟩ := hrest r
    exact ⟨P', hstable, hpost, ih r hruns⟩

lemma runs_ret {a : α} (h : ∀ s, M.inv s → P s → Q a s) :
    M.Runs G R lingers (.ret a : Program ι ans α) P Q := h

lemma runs_raise : M.Runs G R lingers (.raise : Program ι ans α) P Q := trivial

lemma runs_raiseUnless {c : Prop} [Decidable c] :
    M.Runs G R lingers (.raiseUnless c : Program ι ans Unit) P fun _ s => P s ∧ c := by
  rw [Program.raiseUnless]
  by_cases hc : c
  · rw [if_pos hc]
    exact fun s _ hp => ⟨hp, hc⟩
  · rw [if_neg hc]
    trivial

lemma runs_orFail {x : Option α} :
    M.Runs G R lingers (.orFail x : Program ι ans α) P fun a s => P s ∧ x = some a := by
  cases x with
  | none => trivial
  | some a => exact fun s _ hp => ⟨hp, rfl⟩

/-- A single call. -/
lemma runs_perform {i : ι} {Q : ans i → σ → Prop}
    (hmove : ∀ s r s', M.inv s → P s → S.exec i s r s' → G s s')
    (hlinger : lingers = true → S.lingers i = true → S.inherits i = false → M.Lingers i P)
    (hstable : ∀ r, M.Stable R (Q r))
    (hpost : ∀ s r s', M.inv s → P s → S.exec i s r s' → Q r s') :
    M.Runs G R lingers (.perform i : Program ι ans (ans i)) P Q :=
  ⟨hmove, hlinger, fun r => ⟨Q r, hstable r, fun s s' hs hp => hpost s r s' hs hp,
    fun _ _ hq => hq⟩⟩

lemma runs_false {p : Program ι ans α} (h : ∀ s, ¬ P s) : M.Runs G R lingers p P Q := by
  induction p generalizing P with
  | ret a => exact fun s _ hp => absurd hp (h s)
  | raise => trivial
  | call i k ih =>
    refine ⟨fun s _ _ _ hp => absurd hp (h s), fun _ _ _ => ⟨fun _ => False, fun _ _ _ _ h => h,
      fun s _ hp => h s hp, fun _ _ _ _ hfalse => hfalse.elim⟩, fun r => ?_⟩
    exact ⟨fun _ => False, fun _ _ _ _ h => h, fun s _ _ hp => absurd hp (h s), ih r fun _ => id⟩

/-- A fact that is not about the world. -/
lemma runs_and {p : Program ι ans α} {c : Prop}
    (h : c → M.Runs G R lingers p P Q) : M.Runs G R lingers p (fun s => P s ∧ c) Q := by
  by_cases hc : c
  · exact (h hc).mono fun _ _ hp => hp.1
  · exact runs_false fun _ hp => hc hp.2

/-! ### What machines do -/

/-- All programs of a machine run well from the world that it is in. -/
structure Good (M : S.Moves) (m : Machine σ ι ans) : Prop where
  inv : M.inv m.world
  holder : ∀ p, m.holder = some p → ∃ P, M.Stable M.Beside P ∧ P m.world ∧
    M.RunsLocked p P fun _ _ => True
  others : ∀ p ∈ m.others, ∃ P, M.Stable M.Around P ∧ P m.world ∧ M.RunsFree p P fun _ _ => True

/-- What is shown of the programs of a setting. -/
structure Checked (M : S.Moves) : Prop where
  locked : ∀ p, S.locked p → M.RunsLocked p (fun _ => True) fun _ _ => True
  free : ∀ p, S.free p → M.RunsFree p (fun _ => True) fun _ _ => True

/-- Nothing happens, or a move. -/
def Changes (M : S.Moves) (s s' : σ) : Prop := s = s' ∨ M.Around s s'

lemma Good.others_move {m : Machine σ ι ans} {s : σ} (h : M.Good m) (hmove : M.Around m.world s)
    {p : Program ι ans Unit} (hp : p ∈ m.others) :
    ∃ P, M.Stable M.Around P ∧ P s ∧ M.RunsFree p P fun _ _ => True := by
  obtain ⟨P, hstable, hP, hruns⟩ := h.others p hp
  exact ⟨P, hstable, hstable _ _ h.inv hmove hP, hruns⟩

lemma Good.holder_move {m : Machine σ ι ans} {s : σ} (h : M.Good m) (hmove : M.Beside m.world s)
    {p : Program ι ans Unit} (hp : m.holder = some p) :
    ∃ P, M.Stable M.Beside P ∧ P s ∧ M.RunsLocked p P fun _ _ => True := by
  obtain ⟨P, hstable, hP, hruns⟩ := h.holder p hp
  exact ⟨P, hstable, hstable _ _ h.inv hmove hP, hruns⟩

/-- A step of a good machine is a move of its world, and the machine stays good. -/
theorem Good.step {m m' : Machine σ ι ans} (hchecked : M.Checked) (h : M.Good m)
    (hstep : S.Step m m') : M.Good m' ∧ M.Changes m.world m'.world := by
  cases hstep with
  | env holder others henv =>
    have hmove : M.Around _ _ := Or.inr (Or.inr henv)
    refine ⟨⟨M.inv_around h.inv hmove, fun p hp => h.holder_move (Or.inr henv) hp,
      fun p hp => h.others_move hmove hp⟩, Or.inr hmove⟩
  | acquire s others hlocked =>
    refine ⟨⟨h.inv, fun p hp => ?_, h.others⟩, Or.inl rfl⟩
    cases hp
    exact ⟨_, stable_true, trivial, hchecked.locked _ hlocked⟩
  | spawn s holder others hfree =>
    refine ⟨⟨h.inv, h.holder, fun p hp => ?_⟩, Or.inl rfl⟩
    rcases List.mem_cons.mp hp with rfl | hp
    · exact ⟨_, stable_true, trivial, hchecked.free _ hfree⟩
    · exact h.others p hp
  | call others hexec =>
    obtain ⟨P, -, hP, hmoves, -, hrest⟩ := h.holder _ rfl
    have hmove : M.Around _ _ := Or.inl (hmoves _ _ _ h.inv hP hexec)
    refine ⟨⟨M.inv_around h.inv hmove, fun p hp => ?_, fun p hp => h.others_move hmove hp⟩,
      Or.inr hmove⟩
    cases hp
    obtain ⟨P', hstable, hpost, hruns⟩ := hrest _
    exact ⟨P', hstable, hpost _ _ h.inv hP hexec, hruns⟩
  | unlock s p others => exact ⟨⟨h.inv, fun p hp => (nomatch hp), h.others⟩, Or.inl rfl⟩
  | inherit s others hinherits =>
    refine ⟨⟨h.inv, fun p hp => ?_, h.others⟩, Or.inl rfl⟩
    cases hp
    obtain ⟨P, hstable, hP, hmoves, hlinger, -⟩ := h.holder _ rfl
    exact ⟨P, hstable, hP, hmoves, hlinger,
      fun _ => ⟨_, stable_true, fun _ _ _ _ _ => trivial, trivial⟩⟩
  | linger s others hlingers hlock =>
    refine ⟨⟨h.inv, fun p hp => (nomatch hp), fun p hp => ?_⟩, Or.inl rfl⟩
    rcases List.mem_cons.mp hp with rfl | hp
    · obtain ⟨P, -, hP, -, hlinger, -⟩ := h.holder _ rfl
      obtain ⟨P', hstable, hP', hfree⟩ := hlinger rfl hlingers hlock
      exact ⟨P', hstable, hP' s h.inv hP, hfree, fun hfalse => (nomatch hfalse),
        fun _ => ⟨_, stable_true, fun _ _ _ _ _ => trivial, trivial⟩⟩
    · exact h.others p hp
  | otherCall holder before after hexec =>
    obtain ⟨P, -, hP, hmoves, -, hrest⟩ := h.others _ (List.mem_append_right _ List.mem_cons_self)
    have hfree := hmoves _ _ _ h.inv hP hexec
    have hmove : M.Around _ _ := Or.inr (Or.inl hfree)
    refine ⟨⟨M.inv_around h.inv hmove, fun p hp => h.holder_move (Or.inl hfree) hp, fun p hp => ?_⟩,
      Or.inr hmove⟩
    rcases List.mem_append.mp hp with hp | hp
    · exact h.others_move hmove (List.mem_append_left _ hp)
    · rcases List.mem_cons.mp hp with rfl | hp
      · obtain ⟨P', hstable, hpost, hruns⟩ := hrest _
        exact ⟨P', hstable, hpost _ _ h.inv hP hexec, hruns⟩
      · exact h.others_move hmove (List.mem_append_right _ (List.mem_cons_of_mem _ hp))
  | otherStop s holder before after p =>
    refine ⟨⟨h.inv, h.holder, fun q hq => h.others q ?_⟩, Or.inl rfl⟩
    rcases List.mem_append.mp hq with hq | hq
    · exact List.mem_append_left _ hq
    · exact List.mem_append_right _ (List.mem_cons_of_mem _ hq)

end Moves

variable {M}

/-- The machines that can be reached. -/
def Reaches (S : Setting σ ι ans) : Machine σ ι ans → Machine σ ι ans → Prop :=
  Relation.ReflTransGen S.Step

/-- Every step of a run is a move of the world, and the invariant holds all along. -/
theorem Moves.Good.reaches {m m' : Machine σ ι ans} (hchecked : M.Checked) (h : M.Good m)
    (hrun : S.Reaches m m') :
    M.Good m' ∧ Relation.ReflTransGen M.Changes m.world m'.world := by
  induction hrun with
  | refl => exact ⟨h, .refl⟩
  | tail _ hstep ih =>
    obtain ⟨hgood, hmove⟩ := ih.1.step hchecked hstep
    exact ⟨hgood, ih.2.tail hmove⟩

/-- What every move keeps is kept by a run. -/
theorem Moves.Good.reaches_keeps {m m' : Machine σ ι ans} {K : σ → Prop}
    (hchecked : M.Checked) (h : M.Good m) (hK : ∀ s s', M.inv s → M.Changes s s' → K s → K s')
    (hrun : S.Reaches m m') (hk : K m.world) : K m'.world := by
  have hend : M.Good m' ∧ K m'.world := by
    induction hrun with
    | refl => exact ⟨h, hk⟩
    | tail _ hstep ih =>
      obtain ⟨hgood, hmove⟩ := ih.1.step hchecked hstep
      exact ⟨hgood, hK _ _ ih.1.inv hmove ih.2⟩
  exact hend.2

/-! ### The end of a program -/

/-- A step in which the lock is not given up. -/
def Keeps (S : Setting σ ι ans) (m m' : Machine σ ι ans) : Prop :=
  S.Step m m' ∧ ∃ p, m'.holder = some p

/-- The program that has the lock, and what holds when it returns. -/
def Moves.Holds (M : S.Moves) (Q : σ → Prop) (m : Machine σ ι ans) : Prop :=
  ∃ p, m.holder = some p ∧ ∃ P, M.Stable M.Beside P ∧ P m.world ∧ M.RunsLocked p P fun _ => Q

lemma Moves.Holds.step {m m' : Machine σ ι ans} {Q : σ → Prop} (hgood : M.Good m)
    (hholds : M.Holds Q m) (hchecked : M.Checked) (hstep : S.Keeps m m') : M.Holds Q m' := by
  obtain ⟨hstep, q, hq⟩ := hstep
  have hworld := (hgood.step hchecked hstep).2
  obtain ⟨p, hp, P, hstable, hP, hruns⟩ := hholds
  cases hstep with
  | env holder others henv =>
    exact ⟨p, hp, P, hstable, hstable _ _ hgood.inv (Or.inr henv) hP, hruns⟩
  | acquire s others hlocked => cases hp
  | spawn s holder others hfree => exact ⟨p, hp, P, hstable, hP, hruns⟩
  | call others hexec =>
    cases hp
    obtain ⟨-, -, hrest⟩ := hruns
    obtain ⟨P', hstable', hpost, hruns⟩ := hrest _
    exact ⟨_, rfl, P', hstable', hpost _ _ hgood.inv hP hexec, hruns⟩
  | unlock s p others => cases hq
  | inherit s others hinherits =>
    cases hp
    obtain ⟨hmoves, hlinger, -⟩ := hruns
    exact ⟨_, rfl, P, hstable, hP, hmoves, hlinger,
      fun _ => ⟨_, stable_true, fun _ _ _ _ _ => trivial, trivial⟩⟩
  | linger s others hlingers hlock => cases hq
  | otherCall holder before after hexec =>
    obtain ⟨P', -, hP', hmoves, -, -⟩ :=
      hgood.others _ (List.mem_append_right _ List.mem_cons_self)
    have hfree := hmoves _ _ _ hgood.inv hP' hexec
    exact ⟨p, hp, P, hstable, hstable _ _ hgood.inv (Or.inl hfree) hP, hruns⟩
  | otherStop s holder before after q => exact ⟨p, hp, P, hstable, hP, hruns⟩

/-- What is shown of a program holds in the world in which it returns. -/
theorem Moves.Holds.returns {m m' : Machine σ ι ans} {Q : σ → Prop} (hgood : M.Good m)
    (hholds : M.Holds Q m) (hchecked : M.Checked)
    (hrun : Relation.ReflTransGen S.Keeps m m') (hreturns : m'.holder = some (.ret ())) :
    Q m'.world := by
  have hend : M.Good m' ∧ M.Holds Q m' := by
    clear hreturns
    induction hrun with
    | refl => exact ⟨hgood, hholds⟩
    | tail _ hstep ih =>
      exact ⟨(ih.1.step hchecked hstep.1).1, ih.2.step ih.1 hchecked hstep⟩
  obtain ⟨hgood, p, hp, P, -, hP, hruns⟩ := hend
  rw [hreturns] at hp
  cases hp
  exact hruns _ hgood.inv hP

end Setting

end EdaGym
