import Mathlib.Logic.Function.Basic
import Mathlib.Logic.Relation
import Mathlib.Tactic.SplitIfs

/-!
# Exchanges recorded in two journals

One journal reserves an exchange, dispatches it and settles it with the facts of its answer, or with
none. The other one records the request before it is dispatched and the answer before it is settled.
Every step commits to one of the journals, and a party may stop for good between any two steps. What
the first journal has settled then always agrees with the second one.
-/

namespace EdaGym

universe u v w

/-- `requests k` is what the second journal knows of an exchange: its request, and the facts of its
answer. `opened i` is a reservation of the first journal and whether it was dispatched. -/
@[ext]
structure Exchanges (κ : Type u) (ι : Type v) (φ : Type w) where
  requests : κ → Option (Option φ)
  opened : ι → Option (κ × Bool)
  settled : List (κ × Option φ)

namespace Exchanges

variable {κ : Type u} {ι : Type v} {φ : Type w} [DecidableEq κ] [DecidableEq ι]
  {x y : Exchanges κ ι φ} {k : κ} {i : ι}

inductive Step (x : Exchanges κ ι φ) : Exchanges κ ι φ → Prop
  | reserve (i : ι) (k : κ) (hi : x.opened i = none) (hk : ∀ j d, x.opened j ≠ some (k, d))
      (hretry : (∃ v, (k, v) ∈ x.settled) → (k, none) ∈ x.settled) :
      Step x { x with opened := Function.update x.opened i (some (k, false)) }
  | record (k : κ) (hk : x.requests k = none) :
      Step x { x with requests := Function.update x.requests k (some none) }
  | dispatch (i : ι) (k : κ) (hi : x.opened i = some (k, false)) (hk : x.requests k ≠ none)
      (hnew : ∀ v, (k, v) ∉ x.settled) :
      Step x { x with opened := Function.update x.opened i (some (k, true)) }
  | respond (i : ι) (k : κ) (f : φ) (hi : x.opened i = some (k, true))
      (hk : x.requests k = some none) :
      Step x { x with requests := Function.update x.requests k (some (some f)) }
  | cancel (i : ι) (k : κ) (hi : x.opened i = some (k, false)) :
      Step x { x with opened := Function.update x.opened i none }
  | settle (i : ι) (k : κ) (v : Option φ) (hi : x.opened i = some (k, true))
      (hk : x.requests k = some v) :
      Step x { x with
        opened := Function.update x.opened i none
        settled := x.settled ++ [(k, v)] }

structure Consistent (x : Exchanges κ ι φ) : Prop where
  /-- What is settled is what the other journal holds. -/
  agrees : ∀ k v, (k, v) ∈ x.settled → x.requests k = some v
  /-- A dispatched request is recorded and not settled yet. -/
  dispatched : ∀ i k, x.opened i = some (k, true) →
    x.requests k ≠ none ∧ ∀ v, (k, v) ∉ x.settled
  /-- A request that was not dispatched has no answer. -/
  undispatched : ∀ i k, x.opened i = some (k, false) → ∀ f, x.requests k ≠ some (some f)
  /-- Only a dispatched or settled request is answered. -/
  answered : ∀ k f, x.requests k = some (some f) →
    (∃ v, (k, v) ∈ x.settled) ∨ ∃ i, x.opened i = some (k, true)
  unique : ∀ i j k d d', x.opened i = some (k, d) → x.opened j = some (k, d') → i = j

omit [DecidableEq κ] [DecidableEq ι] in
lemma consistent_initial (hopened : ∀ i, x.opened i = none) (hrequests : ∀ k, x.requests k = none)
    (hsettled : x.settled = []) : x.Consistent where
  agrees := by simp [hsettled]
  dispatched := by simp [hopened]
  undispatched := by simp [hopened]
  answered := by simp [hrequests]
  unique := by simp [hopened]

omit [DecidableEq κ] in
/-- Any change of one reservation keeps the keys apart if the new key is not in use elsewhere. -/
lemma unique_update (h : x.Consistent) {entry : Option (κ × Bool)}
    (hentry : ∀ k d, entry = some (k, d) → ∀ j d', j ≠ i → x.opened j ≠ some (k, d')) :
    ∀ j j' k d d', Function.update x.opened i entry j = some (k, d) →
      Function.update x.opened i entry j' = some (k, d') → j = j' := by
  intro j j' k d d' hj hj'
  simp only [Function.update_apply] at hj hj'
  split_ifs at hj hj' with h₁ h₂ h₂
  · rw [h₁, h₂]
  · exact absurd hj' (hentry k d hj j' d' h₂)
  · exact absurd hj (hentry k d' hj' j d h₁)
  · exact h.unique j j' k d d' hj hj'

omit [DecidableEq κ] in
lemma update_opened_of_ne {j : ι} {e : κ × Bool} {entry : Option (κ × Bool)}
    (hj : x.opened j = some e) (hi : x.opened i ≠ some e) :
    Function.update x.opened i entry j = some e := by
  have hji : j ≠ i := by
    rintro rfl
    exact hi hj
  rw [Function.update_of_ne hji, hj]

theorem Step.consistent (hstep : Step x y) (h : x.Consistent) : y.Consistent := by
  cases hstep with
  | reserve i k hi hk hretry =>
    have hopened : ∀ j k' d, Function.update x.opened i (some (k, false)) j = some (k', d) →
        x.opened j = some (k', d) ∨ (j = i ∧ k' = k ∧ d = false) := by
      intro j k' d hj
      simp only [Function.update_apply] at hj
      split_ifs at hj with hji
      · obtain ⟨rfl, rfl⟩ := Prod.mk.inj (Option.some.inj hj)
        exact Or.inr ⟨hji, rfl, rfl⟩
      · exact Or.inl hj
    refine ⟨h.agrees, ?_, ?_, ?_, unique_update h ?_⟩
    · intro j k' hj
      rcases hopened j k' true hj with hj | ⟨-, -, hd⟩
      · exact h.dispatched j k' hj
      · cases hd
    · intro j k' hj f hf
      rcases hopened j k' false hj with hj | ⟨-, rfl, -⟩
      · exact h.undispatched j k' hj f hf
      -- an answered request is settled or dispatched: neither admits this reservation
      · rcases h.answered k' f hf with hsettled | ⟨j', hj'⟩
        · have := h.agrees k' none (hretry hsettled)
          rw [this] at hf
          cases hf
        · exact hk j' true hj'
    · intro k' f hf
      rcases h.answered k' f hf with hsettled | ⟨j, hj⟩
      · exact Or.inl hsettled
      · exact Or.inr ⟨j, update_opened_of_ne hj (by simp [hi])⟩
    · intro k' d hentry j d' _ hj
      obtain ⟨rfl, rfl⟩ := Prod.mk.inj (Option.some.inj hentry)
      exact hk j d' hj
  | record k hk =>
    have hrequests : ∀ k' v, Function.update x.requests k (some none) k' = some v →
        x.requests k' = some v ∨ v = none := by
      intro k' v hv
      simp only [Function.update_apply] at hv
      split_ifs at hv
      · exact Or.inr (Option.some.inj hv).symm
      · exact Or.inl hv
    refine ⟨?_, ?_, ?_, ?_, h.unique⟩
    · intro k' v hv
      have hne : k' ≠ k := by
        rintro rfl
        have := h.agrees _ _ hv
        rw [hk] at this
        cases this
      exact (Function.update_of_ne hne _ _).trans (h.agrees k' v hv)
    · intro j k' hj
      refine ⟨?_, (h.dispatched j k' hj).2⟩
      simp only [Function.update_apply]
      split_ifs
      · exact Option.some_ne_none _
      · exact (h.dispatched j k' hj).1
    · intro j k' hj f hf
      rcases hrequests k' (some f) hf with hf | hf
      · exact h.undispatched j k' hj f hf
      · cases hf
    · intro k' f hf
      rcases hrequests k' (some f) hf with hf | hf
      · exact h.answered k' f hf
      · cases hf
  | dispatch i k hi hk hnew =>
    have hopened : ∀ j k' d, Function.update x.opened i (some (k, true)) j = some (k', d) →
        (x.opened j = some (k', d) ∧ j ≠ i) ∨ (j = i ∧ k' = k ∧ d = true) := by
      intro j k' d hj
      simp only [Function.update_apply] at hj
      split_ifs at hj with hji
      · obtain ⟨rfl, rfl⟩ := Prod.mk.inj (Option.some.inj hj)
        exact Or.inr ⟨hji, rfl, rfl⟩
      · exact Or.inl ⟨hj, hji⟩
    refine ⟨h.agrees, ?_, ?_, ?_, unique_update h ?_⟩
    · intro j k' hj
      rcases hopened j k' true hj with ⟨hj, -⟩ | ⟨-, rfl, -⟩
      · exact h.dispatched j k' hj
      · exact ⟨hk, hnew⟩
    · intro j k' hj
      rcases hopened j k' false hj with ⟨hj, -⟩ | ⟨-, -, hd⟩
      · exact h.undispatched j k' hj
      · cases hd
    · intro k' f hf
      rcases h.answered k' f hf with hsettled | ⟨j, hj⟩
      · exact Or.inl hsettled
      · exact Or.inr ⟨j, update_opened_of_ne hj (by simp [hi])⟩
    · intro k' d hentry j d' hji hj
      obtain ⟨rfl, rfl⟩ := Prod.mk.inj (Option.some.inj hentry)
      exact hji (h.unique j i _ d' false hj hi)
  | respond i k f hi hk =>
    have hrequests : ∀ k', k' ≠ k →
        Function.update x.requests k (some (some f)) k' = x.requests k' :=
      fun k' hne => Function.update_of_ne hne _ _
    refine ⟨?_, ?_, ?_, ?_, h.unique⟩
    · intro k' v hv
      have hne : k' ≠ k := by
        rintro rfl
        exact (h.dispatched i k' hi).2 v hv
      exact (hrequests k' hne).trans (h.agrees k' v hv)
    · intro j k' hj
      refine ⟨?_, (h.dispatched j k' hj).2⟩
      simp only [Function.update_apply]
      split_ifs
      · exact Option.some_ne_none _
      · exact (h.dispatched j k' hj).1
    · intro j k' hj f' hf
      have hne : k' ≠ k := by
        rintro rfl
        obtain rfl := h.unique j i k' false true hj hi
        rw [hi] at hj
        cases hj
      exact h.undispatched j k' hj f' ((hrequests k' hne).symm.trans hf)
    · intro k' f' hf
      by_cases hkk : k' = k
      · subst hkk
        exact Or.inr ⟨i, hi⟩
      · exact h.answered k' f' ((hrequests k' hkk).symm.trans hf)
  | cancel i k hi =>
    have hopened : ∀ j e, Function.update x.opened i none j = some e → x.opened j = some e := by
      intro j e hj
      simp only [Function.update_apply] at hj
      split_ifs at hj
      exact hj
    refine ⟨h.agrees, ?_, ?_, ?_, unique_update h ?_⟩
    · exact fun j k' hj => h.dispatched j k' (hopened j _ hj)
    · exact fun j k' hj => h.undispatched j k' (hopened j _ hj)
    · intro k' f hf
      rcases h.answered k' f hf with hsettled | ⟨j, hj⟩
      · exact Or.inl hsettled
      · exact Or.inr ⟨j, update_opened_of_ne hj (by simp [hi])⟩
    · intro k' d hentry
      cases hentry
  | settle i k v hi hk =>
    have hopened : ∀ j k' d, Function.update x.opened i none j = some (k', d) →
        x.opened j = some (k', d) ∧ k' ≠ k := by
      intro j k' d hj
      simp only [Function.update_apply] at hj
      split_ifs at hj with hji
      refine ⟨hj, ?_⟩
      rintro rfl
      exact hji (h.unique j i k' d true hj hi)
    have hsettled : ∀ k' v', (k', v') ∈ x.settled ++ [(k, v)] ↔
        (k', v') ∈ x.settled ∨ (k' = k ∧ v' = v) := by simp
    refine ⟨?_, ?_, ?_, ?_, unique_update h ?_⟩
    · intro k' v' hv
      rcases (hsettled k' v').mp hv with hv | ⟨rfl, rfl⟩
      · exact h.agrees k' v' hv
      · exact hk
    · intro j k' hj
      obtain ⟨hj, hne⟩ := hopened j k' true hj
      refine ⟨(h.dispatched j k' hj).1, fun v' hv => ?_⟩
      rcases (hsettled k' v').mp hv with hv | ⟨rfl, -⟩
      · exact (h.dispatched j k' hj).2 v' hv
      · exact hne rfl
    · exact fun j k' hj => h.undispatched j k' (hopened j k' false hj).1
    · intro k' f hf
      by_cases hkk : k' = k
      · exact Or.inl ⟨v, (hsettled k' v).mpr (Or.inr ⟨hkk, rfl⟩)⟩
      · rcases h.answered k' f hf with ⟨v', hv⟩ | ⟨j, hj⟩
        · exact Or.inl ⟨v', (hsettled k' v').mpr (Or.inl hv)⟩
        · exact Or.inr ⟨j, update_opened_of_ne hj (by simp [hi, Ne.symm hkk])⟩
    · intro k' d hentry
      cases hentry

end Exchanges

end EdaGym
