import Mathlib.Data.List.Induction
import Mathlib.Logic.Relation

/-!
# Dependency orders

A list is ordered by dependency when all that an element depends on stands before it. What holds of
an element as soon as it holds of its dependencies then holds of the whole list.
-/

namespace EdaGym

universe u
variable {κ : Type u} {dep : κ → κ → Prop} {xs : List κ} {x d : κ} {P : κ → Prop}

def DependencyOrdered (dep : κ → κ → Prop) (xs : List κ) : Prop :=
  ∀ pre x post, xs = pre ++ x :: post → ∀ d, dep x d → d ∈ pre

namespace DependencyOrdered

lemma nil : DependencyOrdered dep [] := by
  intro pre x post h
  simp at h

lemma concat_iff :
    DependencyOrdered dep (xs ++ [x]) ↔ DependencyOrdered dep xs ∧ ∀ d, dep x d → d ∈ xs := by
  constructor
  · intro h
    refine ⟨?_, h xs x [] rfl⟩
    intro pre y post heq
    exact h pre y (post ++ [x]) (by simp [heq])
  · rintro ⟨hxs, hx⟩ pre y post heq
    rcases List.eq_nil_or_concat post with rfl | ⟨post, z, rfl⟩
    · obtain ⟨rfl, hlast⟩ := List.append_inj' heq rfl
      obtain rfl := (List.cons.inj hlast).1
      exact hx
    · have hsplit : xs ++ [x] = (pre ++ y :: post) ++ [z] := by simpa using heq
      exact hxs pre y post (List.append_inj' hsplit rfl).1

lemma of_append {ys : List κ} (h : DependencyOrdered dep (xs ++ ys)) :
    DependencyOrdered dep xs := by
  intro pre x post heq
  exact h pre x (post ++ ys) (by simp [heq])

/-- The dependencies of a listed element are listed. -/
lemma closed (h : DependencyOrdered dep xs) (hx : x ∈ xs) (hd : dep x d) : d ∈ xs := by
  obtain ⟨pre, post, rfl⟩ := List.append_of_mem hx
  exact List.mem_append_left _ (h pre x post rfl d hd)

/-- What passes from the dependencies of an element to the element holds of all of them. -/
theorem induction (h : DependencyOrdered dep xs)
    (hstep : ∀ x ∈ xs, (∀ d, dep x d → P d) → P x) : ∀ x ∈ xs, P x := by
  induction xs using List.reverseRecOn with
  | nil => simp
  | append_singleton xs y ih =>
    obtain ⟨hxs, hy⟩ := concat_iff.mp h
    have hall := ih hxs fun x hx => hstep x (List.mem_append_left _ hx)
    intro x hx
    rcases List.mem_append.mp hx with hx | hx
    · exact hall x hx
    · obtain rfl := List.mem_singleton.mp hx
      exact hstep x (by simp) fun d hd => hall d (hy d hd)

/-- Among the listed elements with a property there is one that depends on no other. -/
theorem exists_least (h : DependencyOrdered dep xs) (hx : x ∈ xs) (hP : P x) :
    ∃ y ∈ xs, P y ∧ ∀ d, dep y d → ¬ P d := by
  by_contra hnone
  have hall : ∀ y ∈ xs, ¬ P y := by
    refine h.induction ?_
    intro y hy hdeps hPy
    exact hnone ⟨y, hy, hPy, hdeps⟩
  exact hall x hx hP

end DependencyOrdered

end EdaGym
