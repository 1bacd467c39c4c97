import Mathlib.Data.List.MinMax
import Mathlib.Data.List.Sublists
import Mathlib.Order.Lex
import Mathlib.Data.Prod.Lex
import Mathlib.Tactic.Lemma

/-!
# Exhaustive selection

The best of all selections from a list, under a score whose leading part says whether a selection
is good enough. An exhaustive search that puts the good selections first finds a good one exactly
when there is one, whatever else the score looks at.
-/

namespace EdaGym

universe u v
variable {α : Type u} {β : Type v}

/-- The selections of `size` elements, in the order of their positions. -/
def combinations : Nat → List α → List (List α)
  | 0, _ => [[]]
  | _ + 1, [] => []
  | size + 1, x :: xs => (combinations size xs).map (x :: ·) ++ combinations (size + 1) xs

lemma mem_combinations {size : Nat} {xs s : List α} :
    s ∈ combinations size xs ↔ s.Sublist xs ∧ s.length = size := by
  induction xs generalizing size s with
  | nil =>
    cases size with
    | zero => simp [combinations]
    | succ size =>
      simp only [combinations, List.not_mem_nil, List.sublist_nil, false_iff, not_and]
      rintro rfl
      simp
  | cons x xs ih =>
    cases size with
    | zero =>
      simp only [combinations, List.mem_singleton, List.length_eq_zero_iff]
      constructor
      · rintro rfl
        exact ⟨List.nil_sublist _, rfl⟩
      · exact fun h => h.2
    | succ size =>
      simp only [combinations, List.mem_append, List.mem_map, ih, List.sublist_cons_iff]
      constructor
      · rintro (⟨t, ⟨ht, hlength⟩, rfl⟩ | ⟨hs, hlength⟩)
        · exact ⟨Or.inr ⟨t, rfl, ht⟩, by rw [List.length_cons, hlength]⟩
        · exact ⟨Or.inl hs, hlength⟩
      · rintro ⟨hs | ⟨t, rfl, ht⟩, hlength⟩
        · exact Or.inr ⟨hs, hlength⟩
        · exact Or.inl ⟨t, ⟨ht, by simpa using hlength⟩, rfl⟩

/-- All selections with at least one element, the small ones first. -/
def selections (xs : List α) : List (List α) :=
  (List.range' 1 xs.length).flatMap fun size => combinations size xs

@[simp] lemma mem_selections {xs s : List α} : s ∈ selections xs ↔ s.Sublist xs ∧ s ≠ [] := by
  simp only [selections, List.mem_flatMap, List.mem_range'_1, mem_combinations]
  constructor
  · rintro ⟨size, hsize, hs, rfl⟩
    refine ⟨hs, ?_⟩
    rintro rfl
    simp at hsize
  · rintro ⟨hs, hne⟩
    have hpos := List.length_pos_iff.mpr hne
    have hle := hs.length_le
    exact ⟨s.length, by omega, hs, rfl⟩

variable [LinearOrder β] {score : α → β} {xs : List α}

/-- Where the good elements score above the others, the best element is good if any element is. -/
theorem good_of_argmax {Good : α → Prop}
    (hscore : ∀ x ∈ xs, ∀ y ∈ xs, Good x → ¬ Good y → score y < score x) {best : α}
    (hbest : best ∈ xs.argmax score) : (∃ x ∈ xs, Good x) ↔ Good best := by
  have hmem := List.argmax_mem hbest
  constructor
  · rintro ⟨x, hx, hgood⟩
    by_contra hnot
    exact absurd (hscore x hx best hmem hgood hnot) (not_lt.mpr (List.le_of_mem_argmax hx hbest))
  · exact fun hgood => ⟨best, hmem, hgood⟩

end EdaGym
