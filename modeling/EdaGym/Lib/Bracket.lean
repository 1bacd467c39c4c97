import Mathlib.Data.List.Basic

/-!
# Opening and closing events

Some events of a log open a key with some data, others close a key. A log is well bracketed when a
key is opened at most once and closed only while it is open, by an event that fits the opening
data. A program that keeps a table of the open keys accepts only well bracketed logs; once its
table is empty, every opening has exactly one closing, which comes later.
-/

namespace EdaGym

universe u v w
variable {α : Type u} {κ : Type v} {ν : Type w}

/-- Which key and data an event opens, which key it closes, and which closings fit an opening. -/
structure Bracket (α : Type u) (κ : Type v) (ν : Type w) where
  opens : α → Option (κ × ν)
  closes : α → Option κ
  fits : ν → α → Prop

namespace Bracket

variable (b : Bracket α κ ν) {log : List α} {e : α} {k : κ} {v : ν}

def Opened (log : List α) (k : κ) (v : ν) : Prop := ∃ e ∈ log, b.opens e = some (k, v)

def Closed (log : List α) (k : κ) : Prop := ∃ e ∈ log, b.closes e = some k

/-- The key is open, with the data it was opened with. -/
def Pending (log : List α) (k : κ) (v : ν) : Prop := b.Opened log k v ∧ ¬ b.Closed log k

/-- Every event of the log is admissible after the events before it. -/
structure WellBracketed (log : List α) : Prop where
  fresh : ∀ pre e post k v, log = pre ++ e :: post → b.opens e = some (k, v) →
    ∀ w, ¬ b.Opened pre k w
  open_before : ∀ pre e post k, log = pre ++ e :: post → b.closes e = some k →
    ¬ b.Closed pre k ∧ ∃ v, b.Opened pre k v ∧ b.fits v e

/-- Every opening has exactly one closing; it comes later and fits the opening. -/
def ClosedExactlyOnce (log : List α) : Prop :=
  ∀ pre e post k v, log = pre ++ e :: post → b.opens e = some (k, v) →
    ∃ mid c rest, post = mid ++ c :: rest ∧ b.closes c = some k ∧ b.fits v c ∧
      ∀ a ∈ pre ++ e :: mid ++ rest, b.closes a ≠ some k

/-- `table` holds the open keys with their data, `seen` every key opened so far. -/
structure Tracks (log : List α) (seen : κ → Prop) (table : κ → Option ν) : Prop where
  wellBracketed : b.WellBracketed log
  seen_of_opened : ∀ k v, b.Opened log k v → seen k
  table_iff : ∀ k v, table k = some v ↔ b.Pending log k v

variable {b}

@[simp] lemma not_opened_nil : ¬ b.Opened [] k v := by
  simp [Opened]

@[simp] lemma not_closed_nil : ¬ b.Closed [] k := by
  simp [Closed]

lemma opened_concat : b.Opened (log ++ [e]) k v ↔ b.Opened log k v ∨ b.opens e = some (k, v) := by
  simp [Opened, or_and_right, exists_or]

lemma closed_concat : b.Closed (log ++ [e]) k ↔ b.Closed log k ∨ b.closes e = some k := by
  simp [Closed, or_and_right, exists_or]

@[simp] lemma not_pending_nil : ¬ b.Pending [] k v := by
  simp [Pending]

lemma pending_concat : b.Pending (log ++ [e]) k v ↔
    (b.Opened log k v ∨ b.opens e = some (k, v)) ∧ ¬ (b.Closed log k ∨ b.closes e = some k) := by
  rw [Pending, opened_concat, closed_concat]

/-! ### Growing a log -/

/-- An occurrence in a log that has grown by one event is the new event or an old occurrence. -/
lemma concat_split {log pre post : List α} {e a : α} (h : log ++ [e] = pre ++ a :: post) :
    (pre = log ∧ a = e ∧ post = []) ∨ ∃ post', post = post' ++ [e] ∧ log = pre ++ a :: post' := by
  rcases List.eq_nil_or_concat post with rfl | ⟨post', c, rfl⟩
  · left
    obtain ⟨h₁, h₂⟩ := List.append_inj' h rfl
    exact ⟨h₁.symm, (List.singleton_inj.mp h₂).symm, rfl⟩
  · right
    rw [List.concat_eq_append, ← List.cons_append, ← List.append_assoc] at h
    obtain ⟨h₁, h₂⟩ := List.append_inj' h rfl
    refine ⟨post', ?_, h₁⟩
    rw [List.concat_eq_append, List.singleton_inj.mp h₂]

lemma WellBracketed.nil : b.WellBracketed [] := by
  constructor
  · intro pre e post k v h
    simp at h
  · intro pre e post k h
    simp at h

lemma WellBracketed.concat (h : b.WellBracketed log)
    (hopens : ∀ k v, b.opens e = some (k, v) → ∀ w, ¬ b.Opened log k w)
    (hcloses : ∀ k, b.closes e = some k →
      ¬ b.Closed log k ∧ ∃ v, b.Opened log k v ∧ b.fits v e) :
    b.WellBracketed (log ++ [e]) := by
  constructor
  · intro pre a post k v hlog ha
    rcases concat_split hlog with ⟨rfl, rfl, -⟩ | ⟨post', -, hlog'⟩
    · exact hopens k v ha
    · exact h.fresh pre a post' k v hlog' ha
  · intro pre a post k hlog ha
    rcases concat_split hlog with ⟨rfl, rfl, -⟩ | ⟨post', -, hlog'⟩
    · exact hcloses k ha
    · exact h.open_before pre a post' k hlog' ha

/-! ### What a well bracketed log says -/

/-- Two openings of one key are the same occurrence. -/
lemma WellBracketed.opening_unique (h : b.WellBracketed log) {pre post pre' post' : List α}
    {e e' : α} {v v' : ν} (hl : log = pre ++ e :: post) (hl' : log = pre' ++ e' :: post')
    (ho : b.opens e = some (k, v)) (ho' : b.opens e' = some (k, v')) :
    pre = pre' ∧ e = e' ∧ post = post' := by
  have key : ∀ {p q p' q' : List α} {a a' : α} {x x' : ν}, log = p ++ a :: q →
      log = p' ++ a' :: q' → b.opens a = some (k, x) → b.opens a' = some (k, x') →
      p'.length ≤ p.length := by
    intro p q p' q' a a' x x' hp hp' ha ha'
    by_contra hlt
    refine h.fresh p' a' q' k x' hp' ha' x ⟨a, ?_, ha⟩
    have hlong : p ++ [a] <+: log := ⟨q, by simp [hp]⟩
    have hshort : p' <+: log := ⟨a' :: q', hp'.symm⟩
    have hpre : p ++ [a] <+: p' := by
      apply List.prefix_of_prefix_length_le hlong hshort
      simp only [List.length_append, List.length_singleton]
      omega
    exact hpre.subset (by simp)
  have hlen : pre.length = pre'.length :=
    Nat.le_antisymm (key hl' hl ho' ho) (key hl hl' ho ho')
  obtain ⟨h₁, h₂⟩ := List.append_inj (hl.symm.trans hl') hlen
  exact ⟨h₁, (List.cons.inj h₂).1, (List.cons.inj h₂).2⟩

/-- No key is opened twice. -/
lemma WellBracketed.opens_pairwise (h : b.WellBracketed log) :
    log.Pairwise fun a e => ∀ k v w, b.opens a = some (k, v) → b.opens e ≠ some (k, w) := by
  suffices hkey : ∀ rest pre, log = pre ++ rest →
      rest.Pairwise fun a e => ∀ k v w, b.opens a = some (k, v) → b.opens e ≠ some (k, w) from
    hkey log [] rfl
  intro rest
  induction rest with
  | nil => intro pre _; exact List.Pairwise.nil
  | cons a rest ih =>
    intro pre hlog
    refine List.pairwise_cons.mpr ⟨fun e he k v w ha hw => ?_, ih (pre ++ [a]) (by simp [hlog])⟩
    obtain ⟨mid, post, rfl⟩ := List.append_of_mem he
    exact h.fresh (pre ++ a :: mid) e post k w (by simp [hlog]) hw v ⟨a, by simp, ha⟩

/-- No other occurrence of the log closes a key that one event closes. -/
lemma WellBracketed.closing_unique (h : b.WellBracketed log) {pre post : List α} {c : α}
    (hl : log = pre ++ c :: post) (hc : b.closes c = some k) :
    ∀ a ∈ pre ++ post, b.closes a ≠ some k := by
  intro a ha hak
  rcases List.mem_append.mp ha with ha | ha
  · exact (h.open_before pre c post k hl hc).1 ⟨a, ha, hak⟩
  · obtain ⟨mid, rest, rfl⟩ := List.append_of_mem ha
    have hl' : log = (pre ++ c :: mid) ++ a :: rest := by simp [hl]
    exact (h.open_before _ a rest k hl' hak).1 ⟨c, by simp, hc⟩

theorem WellBracketed.closedExactlyOnce (h : b.WellBracketed log)
    (hnone : ∀ k v, b.Opened log k v → b.Closed log k) : b.ClosedExactlyOnce log := by
  intro pre e post k v hlog ho
  obtain ⟨c, hmem, hc⟩ := hnone k v ⟨e, by simp [hlog], ho⟩
  obtain ⟨before, rest, hsplit⟩ := List.append_of_mem hmem
  obtain ⟨-, v₀, ⟨e₀, he₀, ho₀⟩, hfits⟩ := h.open_before before c rest k hsplit hc
  obtain ⟨pre₀, mid, rfl⟩ := List.append_of_mem he₀
  -- the opening that `c` was checked against is the given one
  have hlog₀ : log = pre₀ ++ e₀ :: (mid ++ c :: rest) := by simp [hsplit]
  obtain ⟨rfl, rfl, rfl⟩ := h.opening_unique hlog₀ hlog ho₀ ho
  rw [ho₀, Option.some.injEq, Prod.mk.injEq] at ho
  exact ⟨mid, c, rest, rfl, hc, ho.2 ▸ hfits, h.closing_unique hsplit hc⟩

/-! ### Tables of open keys -/

variable {seen seen' : κ → Prop} {table table' : κ → Option ν}

lemma Tracks.nil (htable : ∀ k, table k = none) : b.Tracks [] seen table := by
  refine ⟨WellBracketed.nil, ?_, ?_⟩
  · intro k v h
    exact absurd h not_opened_nil
  · intro k v
    simp [htable]

/-- An event of another kind leaves the table as it is. -/
lemma Tracks.neutral (h : b.Tracks log seen table) (ho : b.opens e = none)
    (hc : b.closes e = none) (hseen : ∀ k, seen k → seen' k) (htable : table' = table) :
    b.Tracks (log ++ [e]) seen' table' := by
  refine ⟨?_, ?_, ?_⟩
  · apply h.wellBracketed.concat
    · intro k v hk
      rw [ho] at hk
      cases hk
    · intro k hk
      rw [hc] at hk
      cases hk
  · intro k v hk
    rw [opened_concat, ho] at hk
    rcases hk with hk | hk
    · exact hseen k (h.seen_of_opened k v hk)
    · cases hk
  · intro k v
    rw [htable, h.table_iff, pending_concat, ho, hc]
    simp [Pending]

/-- An event that opens a key not seen before enters it in the table. -/
lemma Tracks.open (h : b.Tracks log seen table) (ho : b.opens e = some (k, v))
    (hc : b.closes e = none) (hfresh : ¬ seen k) (hseen : ∀ k', seen k' ∨ k' = k → seen' k')
    (hself : table' k = some v) (hne : ∀ k', k' ≠ k → table' k' = table k') :
    b.Tracks (log ++ [e]) seen' table' := by
  have hnew : ∀ w, ¬ b.Opened log k w := fun w hw => hfresh (h.seen_of_opened k w hw)
  have hnotclosed : ¬ b.Closed log k := by
    rintro ⟨c, hc', hck⟩
    obtain ⟨pre, post, hl⟩ := List.append_of_mem hc'
    obtain ⟨-, w, ⟨e₀, he₀, ho₀⟩, -⟩ := h.wellBracketed.open_before pre c post k hl hck
    exact hnew w ⟨e₀, by simp [hl, he₀], ho₀⟩
  refine ⟨?_, ?_, ?_⟩
  · apply h.wellBracketed.concat
    · intro k' v' hk' w
      rw [ho, Option.some.injEq, Prod.mk.injEq] at hk'
      rw [← hk'.1]
      exact hnew w
    · intro k' hk'
      rw [hc] at hk'
      cases hk'
  · intro k' v' hk'
    rw [opened_concat, ho] at hk'
    rcases hk' with hk' | hk'
    · exact hseen k' (Or.inl (h.seen_of_opened k' v' hk'))
    · rw [Option.some.injEq, Prod.mk.injEq] at hk'
      exact hseen k' (Or.inr hk'.1.symm)
  · intro k' v'
    rw [pending_concat, ho, hc]
    by_cases hk' : k' = k
    · subst hk'
      simp [hself, hnew, hnotclosed]
    · have hk'' : ¬ k = k' := fun h => hk' h.symm
      rw [hne k' hk', h.table_iff]
      simp [Pending, hk'']

/-- An event that fits a key of the table removes it. -/
lemma Tracks.close (h : b.Tracks log seen table) (ho : b.opens e = none)
    (hc : b.closes e = some k) (hopen : table k = some v) (hfits : b.fits v e)
    (hseen : ∀ k', seen k' → seen' k') (hself : table' k = none)
    (hne : ∀ k', k' ≠ k → table' k' = table k') :
    b.Tracks (log ++ [e]) seen' table' := by
  obtain ⟨hopened, hnotclosed⟩ := (h.table_iff k v).mp hopen
  refine ⟨?_, ?_, ?_⟩
  · apply h.wellBracketed.concat
    · intro k' v' hk'
      rw [ho] at hk'
      cases hk'
    · intro k' hk'
      rw [hc, Option.some.injEq] at hk'
      subst hk'
      exact ⟨hnotclosed, v, hopened, hfits⟩
  · intro k' v' hk'
    rw [opened_concat, ho] at hk'
    rcases hk' with hk' | hk'
    · exact hseen k' (h.seen_of_opened k' v' hk')
    · cases hk'
  · intro k' v'
    rw [pending_concat, ho, hc]
    by_cases hk' : k' = k
    · subst hk'
      simp [hself]
    · have hk'' : ¬ k = k' := fun h => hk' h.symm
      rw [hne k' hk', h.table_iff]
      simp [Pending, hk'']

theorem Tracks.closedExactlyOnce (h : b.Tracks log seen table) (hempty : ∀ k, table k = none) :
    b.ClosedExactlyOnce log := by
  apply h.wellBracketed.closedExactlyOnce
  intro k v hk
  by_contra hc
  have hv := (h.table_iff k v).mpr ⟨hk, hc⟩
  rw [hempty k] at hv
  cases hv

end Bracket

end EdaGym
