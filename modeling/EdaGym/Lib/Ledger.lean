import EdaGym.Lib.Dict
import Mathlib.Algebra.Order.BigOperators.Group.List
import Mathlib.Algebra.Order.Group.Defs
import Mathlib.Tactic.Abel

/-!
# Reservation ledgers

A ledger holds active reservations, each with an owner and a claim, and running totals of what is
reserved and what is committed, once globally and once per owner. A reservation enters the totals
when it is made and leaves them when it is released or settled; settling commits the actual
amount. The totals are shown to be the sums they stand for, whatever the order of operations.
-/

namespace EdaGym

universe u v w
variable {κ : Type u} {ι : Type v} {M : Type w}

/-! ### Sums over dictionaries -/

section Sum

variable [AddCommGroup M] {ν : Type*} [DecidableEq κ]

/-- The sum of `f` over the values of a dictionary. -/
def Dict.sum (f : ν → M) (d : Dict κ ν) : M := (d.values.map f).sum

variable {f : ν → M} {d : Dict κ ν} {k : κ} {v w : ν}

lemma Dict.sum_insert_of_not_mem (h : k ∉ d) : (d.insert k v).sum f = d.sum f + f v := by
  simp [Dict.sum, Dict.values, Dict.entries_insert_of_not_mem h]

/-- Taking one entry out of a list of pairs with distinct keys. -/
lemma sum_filter_ne_key {es : List (κ × ν)} (hes : (es.map Prod.fst).Nodup)
    (h : (k, w) ∈ es) :
    (((es.filter fun p => p.1 ≠ k).map Prod.snd).map f).sum =
      ((es.map Prod.snd).map f).sum - f w := by
  induction es with
  | nil => cases h
  | cons p es ih =>
    rw [List.map_cons, List.nodup_cons] at hes
    rcases List.mem_cons.mp h with rfl | h
    · have hkeep : es.filter (fun p => decide (p.1 ≠ k)) = es := by
        rw [List.filter_eq_self]
        intro p hp
        apply decide_eq_true
        intro hpk
        exact hes.1 (List.mem_map.mpr ⟨p, hp, hpk⟩)
      simp only [List.filter_cons, ne_eq, not_true_eq_false, decide_false, Bool.false_eq_true,
        if_false, List.map_cons, List.sum_cons]
      simp only [ne_eq] at hkeep
      rw [hkeep]
      abel
    · have hne : p.1 ≠ k := by
        rintro rfl
        exact hes.1 (List.mem_map.mpr ⟨(p.1, w), h, rfl⟩)
      simp only [List.filter_cons, hne, ne_eq, not_false_eq_true, decide_true, if_true,
        List.map_cons, List.sum_cons]
      rw [ih hes.2 h]
      abel

lemma Dict.sum_erase (h : d.get? k = some w) : (d.erase k).sum f = d.sum f - f w := by
  simp only [Dict.sum, Dict.values, Dict.erase]
  exact sum_filter_ne_key d.nodup (Dict.get?_eq_some_iff.mp h)

lemma sum_map_overwrite {es : List (κ × ν)} (hes : (es.map Prod.fst).Nodup)
    (h : (k, w) ∈ es) :
    (((es.map fun p => if p.1 = k then (k, v) else p).map Prod.snd).map f).sum =
      ((es.map Prod.snd).map f).sum - f w + f v := by
  induction es with
  | nil => cases h
  | cons p es ih =>
    rw [List.map_cons, List.nodup_cons] at hes
    rcases List.mem_cons.mp h with rfl | h
    · have hkeep : (es.map fun p => if p.1 = k then (k, v) else p) = es := by
        conv_rhs => rw [← List.map_id es]
        apply List.map_congr_left
        intro p hp
        rw [if_neg]
        · rfl
        · intro hpk
          exact hes.1 (List.mem_map.mpr ⟨p, hp, hpk⟩)
      simp only [List.map_cons, if_true, hkeep, List.sum_cons]
      abel
    · have hne : p.1 ≠ k := by
        rintro rfl
        exact hes.1 (List.mem_map.mpr ⟨(p.1, w), h, rfl⟩)
      simp only [List.map_cons, if_neg hne, List.sum_cons]
      rw [ih hes.2 h]
      abel

lemma Dict.sum_insert_of_get? (h : d.get? k = some w) :
    (d.insert k v).sum f = d.sum f - f w + f v := by
  simp only [Dict.sum, Dict.values, Dict.entries_insert_of_mem (Dict.mem_of_get? h)]
  exact sum_map_overwrite d.nodup (Dict.get?_eq_some_iff.mp h)

end Sum

/-! ### Ledgers -/

/-- The totals of one owner. -/
structure Account (M : Type w) where
  reserved : M
  committed : M

structure Ledger (κ : Type u) (ι : Type v) (M : Type w) where
  active : Dict κ (ι × M)
  accounts : Dict ι (Account M)
  reserved : M
  committed : M

inductive LedgerOp (κ : Type u) (ι : Type v) (M : Type w)
  | reserve (k : κ) (owner : ι) (claim : M)
  | release (k : κ)
  | settle (k : κ) (actual : M)

namespace Ledger

variable [AddCommGroup M] [DecidableEq κ] [DecidableEq ι]

/-- Take a reservation out of the totals and commit an amount in its place. -/
def close (l : Ledger κ ι M) (k : κ) (actual : M) : Option (Ledger κ ι M) :=
  match l.active.get? k with
  | none => none
  | some (owner, claim) =>
    match l.accounts.get? owner with
    | none => none
    | some account => some {
        active := l.active.erase k
        accounts := l.accounts.insert owner
          { reserved := account.reserved - claim, committed := account.committed + actual }
        reserved := l.reserved - claim
        committed := l.committed + actual }

def step (l : Ledger κ ι M) : LedgerOp κ ι M → Option (Ledger κ ι M)
  | .reserve k owner claim =>
    if k ∈ l.active then none
    else
      match l.accounts.get? owner with
      | none => none
      | some account => some { l with
          active := l.active.insert k (owner, claim)
          accounts := l.accounts.insert owner { account with reserved := account.reserved + claim }
          reserved := l.reserved + claim }
  | .release k => l.close k 0
  | .settle k actual => l.close k actual

def run (l : Ledger κ ι M) : List (LedgerOp κ ι M) → Option (Ledger κ ι M)
  | [] => some l
  | op :: ops => (l.step op).bind fun l' => l'.run ops

/-- The amount an operation commits. -/
def commits : LedgerOp κ ι M → M
  | .settle _ actual => actual
  | _ => 0

/-- The totals are the sums they stand for. -/
structure Balanced (l : Ledger κ ι M) : Prop where
  reserved_eq : l.reserved = l.active.sum Prod.snd
  account_eq : ∀ owner account, l.accounts.get? owner = some account →
    account.reserved = l.active.sum fun p => if p.1 = owner then p.2 else 0
  reserved_sum : l.reserved = l.accounts.sum Account.reserved
  committed_sum : l.committed = l.accounts.sum Account.committed

variable {l l' : Ledger κ ι M} {op : LedgerOp κ ι M} {k : κ} {actual : M}

lemma close_eq_some : l.close k actual = some l' ↔
    ∃ owner claim account, l.active.get? k = some (owner, claim) ∧
      l.accounts.get? owner = some account ∧
      l' = {
        active := l.active.erase k
        accounts := l.accounts.insert owner
          { reserved := account.reserved - claim, committed := account.committed + actual }
        reserved := l.reserved - claim
        committed := l.committed + actual } := by
  unfold close
  cases hk : l.active.get? k with
  | none => simp
  | some p =>
    obtain ⟨owner, claim⟩ := p
    cases ho : l.accounts.get? owner with
    | none => simp [ho]
    | some account => simp [ho, eq_comm]

lemma reserve_eq_some {owner : ι} {claim : M} : l.step (.reserve k owner claim) = some l' ↔
    k ∉ l.active ∧ ∃ account, l.accounts.get? owner = some account ∧
      l' = { l with
        active := l.active.insert k (owner, claim)
        accounts := l.accounts.insert owner { account with reserved := account.reserved + claim }
        reserved := l.reserved + claim } := by
  unfold step
  by_cases hk : k ∈ l.active
  · simp [hk]
  · cases ho : l.accounts.get? owner with
    | none => simp [hk, ho]
    | some account => simp [hk, ho, eq_comm]

lemma balanced_reserve {owner : ι} {claim : M} (h : l.Balanced)
    (hs : l.step (.reserve k owner claim) = some l') : l'.Balanced := by
  obtain ⟨hk, account, ho, rfl⟩ := reserve_eq_some.mp hs
  refine ⟨?_, ?_, ?_, ?_⟩
  · rw [Dict.sum_insert_of_not_mem hk, h.reserved_eq]
  · intro owner' account' ho'
    rw [Dict.sum_insert_of_not_mem hk]
    rw [Dict.get?_insert] at ho'
    split_ifs at ho' with heq
    · rw [Option.some.injEq] at ho'
      subst ho' heq
      simp [h.account_eq _ account ho]
    · have hne : ¬ owner = owner' := fun h => heq h.symm
      simp [h.account_eq owner' account' ho', hne]
  · simp only [Dict.sum_insert_of_get? ho, h.reserved_sum]
    abel
  · simp only [Dict.sum_insert_of_get? ho, h.committed_sum]
    abel

lemma balanced_close (h : l.Balanced) (hs : l.close k actual = some l') : l'.Balanced := by
  obtain ⟨owner, claim, account, hk, ho, rfl⟩ := close_eq_some.mp hs
  refine ⟨?_, ?_, ?_, ?_⟩
  · rw [Dict.sum_erase hk, h.reserved_eq]
  · intro owner' account' ho'
    rw [Dict.sum_erase hk]
    rw [Dict.get?_insert] at ho'
    split_ifs at ho' with heq
    · rw [Option.some.injEq] at ho'
      subst ho' heq
      simp [h.account_eq _ account ho]
    · have hne : ¬ owner = owner' := fun h => heq h.symm
      simp [h.account_eq owner' account' ho', hne]
  · simp only [Dict.sum_insert_of_get? ho, h.reserved_sum]
    abel
  · simp only [Dict.sum_insert_of_get? ho, h.committed_sum]
    abel

omit [DecidableEq κ] in
/-- An owner that holds nothing may get an account. -/
lemma balanced_open {owner : ι} (h : l.Balanced) (hnew : owner ∉ l.accounts)
    (hfree : ∀ p ∈ l.active.values, p.1 ≠ owner) :
    Balanced { l with accounts := l.accounts.insert owner ⟨0, 0⟩ } := by
  refine ⟨h.reserved_eq, ?_, ?_, ?_⟩
  · intro owner' account hget
    simp only [Dict.get?_insert] at hget
    split_ifs at hget with heq
    · rw [Option.some.injEq] at hget
      subst hget heq
      symm
      apply List.sum_eq_zero
      intro x hx
      obtain ⟨p, hp, rfl⟩ := List.mem_map.mp hx
      rw [if_neg (hfree p hp)]
    · exact h.account_eq owner' account hget
  · simp only [Dict.sum_insert_of_not_mem hnew, h.reserved_sum, add_zero]
  · simp only [Dict.sum_insert_of_not_mem hnew, h.committed_sum, add_zero]

theorem balanced_step (h : l.Balanced) (hs : l.step op = some l') : l'.Balanced := by
  cases op with
  | reserve k owner claim => exact balanced_reserve h hs
  | release k => exact balanced_close h hs
  | settle k actual => exact balanced_close h hs

variable {ops : List (LedgerOp κ ι M)}

theorem balanced_run (h : l.Balanced) (hs : l.run ops = some l') : l'.Balanced := by
  induction ops generalizing l with
  | nil =>
    cases hs
    exact h
  | cons op ops ih =>
    obtain ⟨m, hm, hrest⟩ := Option.bind_eq_some_iff.mp hs
    exact ih (balanced_step h hm) hrest

lemma committed_step (hs : l.step op = some l') :
    l'.committed = l.committed + commits op := by
  cases op with
  | reserve k owner claim =>
    obtain ⟨-, account, -, rfl⟩ := reserve_eq_some.mp hs
    simp [commits]
  | release k =>
    obtain ⟨owner, claim, account, -, -, rfl⟩ := close_eq_some.mp hs
    rfl
  | settle k actual =>
    obtain ⟨owner, claim, account, -, -, rfl⟩ := close_eq_some.mp hs
    rfl

/-- What is committed after a run is the sum of what its settlements committed. -/
theorem committed_run (hs : l.run ops = some l') :
    l'.committed = l.committed + (ops.map commits).sum := by
  induction ops generalizing l with
  | nil =>
    cases hs
    simp
  | cons op ops ih =>
    obtain ⟨m, hm, hrest⟩ := Option.bind_eq_some_iff.mp hs
    rw [ih hrest, committed_step hm, List.map_cons, List.sum_cons]
    abel

lemma run_concat : l.run (ops ++ [op]) = (l.run ops).bind fun m => m.step op := by
  induction ops generalizing l with
  | nil => simp [run]
  | cons op' ops ih =>
    simp only [List.cons_append, run, Option.bind_assoc, ih]

/-! ### Caps -/

section Caps

variable [PartialOrder M] [IsOrderedAddMonoid M]

/-- Closing a reservation for no more than its claim does not increase what is spoken for, neither
in total nor for any owner. -/
theorem close_le (hs : l.close k actual = some l')
    (hle : ∀ owner claim, l.active.get? k = some (owner, claim) → actual ≤ claim) :
    l'.committed + l'.reserved ≤ l.committed + l.reserved ∧
      ∀ owner account', l'.accounts.get? owner = some account' →
        ∃ account, l.accounts.get? owner = some account ∧
          account'.committed + account'.reserved ≤ account.committed + account.reserved := by
  obtain ⟨owner, claim, account, hk, ho, rfl⟩ := close_eq_some.mp hs
  have hac := hle owner claim hk
  have key : ∀ c r : M, c + actual + (r - claim) ≤ c + r := by
    intro c r
    have hsplit : c + actual + (r - claim) = c + r + (actual - claim) := by abel
    rw [hsplit]
    exact add_le_of_nonpos_right (sub_nonpos.mpr hac)
  refine ⟨key _ _, ?_⟩
  intro owner' account' ho'
  rw [Dict.get?_insert] at ho'
  split_ifs at ho' with heq
  · rw [Option.some.injEq] at ho'
    subst ho' heq
    exact ⟨account, ho, key _ _⟩
  · exact ⟨account', ho', le_refl _⟩

end Caps

/-! ### Signs -/

section Signs

variable [PartialOrder M] [IsOrderedAddMonoid M]

/-- Claims and committed amounts are not negative. -/
structure NonNegative (l : Ledger κ ι M) : Prop where
  claims : ∀ k owner claim, l.active.get? k = some (owner, claim) → 0 ≤ claim
  committed : 0 ≤ l.committed
  accounts : ∀ owner account, l.accounts.get? owner = some account → 0 ≤ account.committed

/-- An operation with a non-negative amount. -/
def OpNonNegative : LedgerOp κ ι M → Prop
  | .reserve _ _ claim => 0 ≤ claim
  | .release _ => True
  | .settle _ actual => 0 ≤ actual

lemma nonNegative_close (h : l.NonNegative) (hactual : 0 ≤ actual)
    (hs : l.close k actual = some l') : l'.NonNegative := by
  obtain ⟨owner, claim, account, hk, ho, rfl⟩ := close_eq_some.mp hs
  refine ⟨?_, add_nonneg h.committed hactual, ?_⟩
  · intro k' owner' claim' hget
    rw [Dict.get?_erase] at hget
    split_ifs at hget
    exact h.claims k' owner' claim' hget
  · intro owner' account' hget
    rw [Dict.get?_insert] at hget
    split_ifs at hget with heq
    · rw [Option.some.injEq] at hget
      subst hget
      exact add_nonneg (h.accounts owner account ho) hactual
    · exact h.accounts owner' account' hget

theorem nonNegative_step (h : l.NonNegative) (hop : OpNonNegative op)
    (hs : l.step op = some l') : l'.NonNegative := by
  cases op with
  | reserve k owner claim =>
    obtain ⟨-, account, ho, rfl⟩ := reserve_eq_some.mp hs
    refine ⟨?_, h.committed, ?_⟩
    · intro k' owner' claim' hget
      rw [Dict.get?_insert] at hget
      split_ifs at hget with heq
      · rw [Option.some.injEq, Prod.mk.injEq] at hget
        rw [← hget.2]
        exact hop
      · exact h.claims k' owner' claim' hget
    · intro owner' account' hget
      rw [Dict.get?_insert] at hget
      split_ifs at hget with heq
      · rw [Option.some.injEq] at hget
        subst hget
        exact h.accounts owner account ho
      · exact h.accounts owner' account' hget
  | release k => exact nonNegative_close h (le_refl 0) hs
  | settle k actual => exact nonNegative_close h hop hs

theorem nonNegative_run {ops : List (LedgerOp κ ι M)} (h : l.NonNegative)
    (hops : ∀ op ∈ ops, OpNonNegative op) (hs : l.run ops = some l') :
    l'.NonNegative := by
  induction ops generalizing l with
  | nil =>
    cases hs
    exact h
  | cons op ops ih =>
    obtain ⟨m, hm, hrest⟩ := Option.bind_eq_some_iff.mp hs
    rw [List.forall_mem_cons] at hops
    exact ih (nonNegative_step h hops.1 hm) hops.2 hrest

/-- In a balanced ledger nothing reserved is negative either. -/
lemma Balanced.reserved_nonneg (hb : l.Balanced) (h : l.NonNegative) :
    0 ≤ l.reserved ∧
      ∀ owner account, l.accounts.get? owner = some account → 0 ≤ account.reserved := by
  have hclaim : ∀ p ∈ l.active.values, 0 ≤ p.2 := by
    intro p hp
    obtain ⟨k, hk⟩ := Dict.mem_values.mp hp
    exact h.claims k p.1 p.2 hk
  constructor
  · rw [hb.reserved_eq]
    apply List.sum_nonneg
    intro x hx
    obtain ⟨p, hp, rfl⟩ := List.mem_map.mp hx
    exact hclaim p hp
  · intro owner account hget
    rw [hb.account_eq owner account hget]
    apply List.sum_nonneg
    intro x hx
    obtain ⟨p, hp, rfl⟩ := List.mem_map.mp hx
    split_ifs
    · exact hclaim p hp
    · exact le_refl 0

end Signs

/-! ### Closing -/

/-- The key an operation takes out of the table. -/
def closes : LedgerOp κ ι M → Option κ
  | .reserve _ _ _ => none
  | .release k => some k
  | .settle k _ => some k

lemma not_mem_of_closes (hs : l.step op = some l') (hc : closes op = some k) :
    k ∈ l.active ∧ k ∉ l'.active := by
  have hclose : ∀ {actual : M}, l.close k actual = some l' → k ∈ l.active ∧ k ∉ l'.active := by
    intro actual hcl
    obtain ⟨owner, claim, account, hk, -, rfl⟩ := close_eq_some.mp hcl
    exact ⟨Dict.mem_of_get? hk, by simp⟩
  cases op with
  | reserve k' owner claim => cases hc
  | release k' =>
    cases hc
    exact hclose hs
  | settle k' actual =>
    cases hc
    exact hclose hs

/-- Only a reservation brings a key back. -/
lemma not_mem_step (hs : l.step op = some l') (hk : k ∉ l.active)
    (hop : ∀ owner claim, op ≠ .reserve k owner claim) : k ∉ l'.active := by
  have hclose : ∀ {k' : κ} {actual : M}, l.close k' actual = some l' → k ∉ l'.active := by
    intro k' actual hcl
    obtain ⟨owner, claim, account, -, -, rfl⟩ := close_eq_some.mp hcl
    simp [hk]
  cases op with
  | reserve k' owner claim =>
    obtain ⟨-, account, -, rfl⟩ := reserve_eq_some.mp hs
    have hne : k ≠ k' := by
      rintro rfl
      exact hop owner claim rfl
    simp [hne, hk]
  | release k' => exact hclose hs
  | settle k' actual => exact hclose hs

end Ledger

end EdaGym
