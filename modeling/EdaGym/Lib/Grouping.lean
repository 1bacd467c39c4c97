import Mathlib.Algebra.BigOperators.Group.List.Basic
import Mathlib.Data.List.Dedup
import Mathlib.Data.List.Nodup
import Mathlib.Data.List.ProdSigma

/-!
# Grouping a list by a key

The elements with a given key form one group. Over a list of distinct keys that covers all elements
the groups are a partition, so every sum over the elements is the sum over the groups.
-/

namespace EdaGym

universe u v w
variable {M : Type*} [AddCommMonoid M]
variable {α : Type u} {κ : Type v} [DecidableEq κ] {key : α → κ} {keys : List κ} {xs : List α}

lemma sum_ite_key (hnodup : keys.Nodup) {k : κ} (hk : k ∈ keys) (n : M) :
    (keys.map fun k' => if k = k' then n else 0).sum = n := by
  induction keys with
  | nil => cases hk
  | cons k' keys ih =>
    rw [List.nodup_cons] at hnodup
    rw [List.map_cons, List.sum_cons]
    by_cases hsame : k = k'
    · subst hsame
      have hzero : (keys.map fun k' => if k = k' then n else 0).sum = 0 := by
        refine List.sum_eq_zero ?_
        intro m hm
        obtain ⟨k', hk', rfl⟩ := List.mem_map.mp hm
        rw [if_neg]
        rintro rfl
        exact hnodup.1 hk'
      rw [if_pos rfl, hzero, add_zero]
    · rw [if_neg hsame, zero_add]
      exact ih hnodup.2 ((List.mem_cons.mp hk).resolve_left hsame)

/-- The groups of distinct keys that cover all elements add up to the whole. -/
theorem sum_groups (hnodup : keys.Nodup) (hcovers : ∀ x ∈ xs, key x ∈ keys) (f : α → M) :
    (keys.map fun k => ((xs.filter fun x => key x = k).map f).sum).sum = (xs.map f).sum := by
  induction xs with
  | nil => simp
  | cons x xs ih =>
    rw [List.forall_mem_cons] at hcovers
    have hsplit : ∀ k, (((x :: xs).filter fun x => key x = k).map f).sum =
        (if key x = k then f x else 0) + ((xs.filter fun x => key x = k).map f).sum := by
      intro k
      by_cases hk : key x = k
      · rw [List.filter_cons_of_pos (by simpa using hk), if_pos hk, List.map_cons, List.sum_cons]
      · rw [List.filter_cons_of_neg (by simpa using hk), if_neg hk, zero_add]
    simp only [hsplit]
    rw [List.sum_map_add, sum_ite_key hnodup hcovers.1, ih hcovers.2, List.map_cons, List.sum_cons]

/-- The cells of a product with one second coordinate follow the first coordinates. -/
lemma filter_snd_product {β : Type w} [DecidableEq β] {ys : List β} (hnodup : ys.Nodup) {y : β}
    (hy : y ∈ ys) (xs : List α) :
    ((xs ×ˢ ys).filter fun cell => cell.2 = y) = xs.map fun x => (x, y) := by
  have hrow : ∀ x : α, ((ys.map (Prod.mk x)).filter fun cell => cell.2 = y) = [(x, y)] := by
    intro x
    rw [List.filter_map]
    have hone : (ys.filter ((fun cell : α × β => decide (cell.2 = y)) ∘ Prod.mk x)) = [y] := by
      change (ys.filter fun y' => decide (y' = y)) = [y]
      rw [List.filter_eq, List.count_eq_one_of_mem hnodup hy]
      rfl
    rw [hone]
    rfl
  induction xs with
  | nil => rfl
  | cons x xs ih =>
    rw [List.product_cons, List.filter_append, hrow, ih]
    rfl

end EdaGym
