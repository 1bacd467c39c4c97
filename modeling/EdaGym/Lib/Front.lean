import Mathlib.Order.Preorder.Finite
import Mathlib.Tactic.Lemma

/-!
# Fronts

The front of a list under a valuation into a preorder is the set of members whose value is below
no other member's. A list is finite, so every member is on the front or strictly below a member
of it, and members that are below others can be added or left out.
-/

namespace EdaGym

universe u v
variable {α : Type u} {β : Type v} [Preorder β]

/-- A member whose value is below no member's. -/
def OnFront (value : α → β) (xs : List α) (x : α) : Prop :=
  x ∈ xs ∧ ∀ y ∈ xs, ¬ value x < value y

variable {value : α → β} {xs ys : List α} {x : α}

/-- Only the members count, not their order. -/
lemma onFront_congr (h : ∀ y, y ∈ xs ↔ y ∈ ys) : OnFront value xs x ↔ OnFront value ys x := by
  simp only [OnFront, h]

/-- What is below some member is below a member of the front. -/
theorem exists_onFront_gt {y : α} (hy : y ∈ xs) (hlt : value x < value y) :
    ∃ z, OnFront value xs z ∧ value x < value z := by
  have hfinite : (value '' {z | z ∈ xs}).Finite := (List.finite_toSet xs).image value
  obtain ⟨_, hle, hmax⟩ := hfinite.exists_le_maximal (Set.mem_image_of_mem value hy)
  obtain ⟨z, hz, rfl⟩ := hmax.prop
  refine ⟨z, ⟨hz, ?_⟩, lt_of_lt_of_le hlt hle⟩
  intro w hw hzw
  exact hmax.not_gt (Set.mem_image_of_mem value hw) hzw

/-- A member that is not on the front is below one that is. -/
theorem exists_onFront_of_not (hx : x ∈ xs) (hnot : ¬ OnFront value xs x) :
    ∃ z, OnFront value xs z ∧ value x < value z := by
  rw [OnFront, not_and] at hnot
  have hbelow := hnot hx
  push Not at hbelow
  obtain ⟨y, hy, hlt⟩ := hbelow
  exact exists_onFront_gt hy hlt

/-- The front of a list with a member has a member. -/
theorem exists_onFront (hx : x ∈ xs) : ∃ z, OnFront value xs z := by
  by_cases h : OnFront value xs x
  · exact ⟨x, h⟩
  · obtain ⟨z, hz, -⟩ := exists_onFront_of_not hx h
    exact ⟨z, hz⟩

/-- Members below others do not change the front. -/
theorem onFront_append_iff
    (h : ∀ y ∈ ys, ∃ z ∈ xs ++ ys, value y < value z) :
    OnFront value (xs ++ ys) x ↔ OnFront value xs x := by
  constructor
  · rintro ⟨hx, hmax⟩
    refine ⟨?_, fun y hy => hmax y (List.mem_append_left ys hy)⟩
    rcases List.mem_append.mp hx with hx | hx
    · exact hx
    · obtain ⟨z, hz, hlt⟩ := h x hx
      exact absurd hlt (hmax z hz)
  · rintro ⟨hx, hmax⟩
    refine ⟨List.mem_append_left ys hx, ?_⟩
    intro y hy hlt
    -- the front member above `y` cannot be one of the added ones
    obtain ⟨z, ⟨hz, hzmax⟩, hyz⟩ := exists_onFront_gt hy hlt
    rcases List.mem_append.mp hz with hz | hz
    · exact hmax z hz hyz
    · obtain ⟨w, hw, hzw⟩ := h z hz
      exact hzmax w hw hzw

end EdaGym
