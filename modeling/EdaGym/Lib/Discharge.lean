import Mathlib.Data.Set.Card
import Mathlib.Data.Set.Finite.Lemmas
import Mathlib.Logic.Relation

/-!
# Discharging obligations one at a time

A state has finitely many open obligations. When an open obligation of least rank can always be
closed without opening another one, all of them can be closed.
-/

namespace EdaGym

universe u v
variable {σ : Type u} {κ : Type v} {R : σ → σ → Prop} {inv : σ → Prop} {isOpen : σ → κ → Prop}

theorem discharge_all (rank : κ → Nat)
    (hclose : ∀ s k, inv s → isOpen s k → (∀ k', isOpen s k' → rank k ≤ rank k') →
      ∃ s', Relation.ReflTransGen R s s' ∧ inv s' ∧ ¬ isOpen s' k ∧
        ∀ k', isOpen s' k' → isOpen s k')
    {s : σ} (hinv : inv s) (hfin : {k | isOpen s k}.Finite) :
    ∃ s', Relation.ReflTransGen R s s' ∧ inv s' ∧ ∀ k, ¬ isOpen s' k := by
  -- every round closes one obligation, so their number decreases
  induction hn : {k | isOpen s k}.ncard using Nat.strong_induction_on generalizing s with
  | _ n ih =>
    by_cases hnone : ∀ k, ¬ isOpen s k
    · exact ⟨s, .refl, hinv, hnone⟩
    · obtain ⟨k₀, hk₀⟩ := not_forall_not.mp hnone
      obtain ⟨k, hk, hleast⟩ := Set.exists_min_image {k | isOpen s k} rank hfin ⟨k₀, hk₀⟩
      obtain ⟨s', hreach, hinv', hclosed, hsub⟩ := hclose s k hinv hk hleast
      have hssub : {k | isOpen s' k} ⊂ {k | isOpen s k} :=
        ⟨hsub, fun hsup => hclosed (hsup hk)⟩
      have hlt : {k | isOpen s' k}.ncard < n := hn ▸ Set.ncard_lt_ncard hssub hfin
      obtain ⟨s'', hreach', hinv'', hdone⟩ := ih _ hlt hinv' (hfin.subset hssub.subset) rfl
      exact ⟨s'', hreach.trans hreach', hinv'', hdone⟩

end EdaGym
