import Mathlib.Data.List.Infix
import Mathlib.Tactic.Lemma

/-!
# Matching a pattern in a stream

The matcher of Knuth, Morris and Pratt reads a text element by element and keeps the length of the
longest part of the pattern, from its start, that the text ends with. The table of the pattern is
built by the same step, on the pattern without its first element.
-/

namespace EdaGym

namespace PatternMatch

variable {α : Type*} [DecidableEq α] (pattern : List α)

/-- Shorter and shorter parts of the pattern, until `x` continues one. -/
def fallBack (table : List Nat) (x : α) : Nat → Nat → Nat
  | 0, matched => matched
  | fuel + 1, matched =>
    if matched ≠ 0 ∧ pattern[matched]? ≠ some x then
      fallBack table x fuel (table.getD (matched - 1) 0)
    else matched

def advance (table : List Nat) (matched : Nat) (x : α) : Nat :=
  let matched := fallBack pattern table x matched matched
  if pattern[matched]? = some x then matched + 1 else matched

def extendTable (s : List Nat × Nat) (x : α) : List Nat × Nat :=
  let matched := advance pattern s.1 s.2 x
  (s.1 ++ [matched], matched)

def prefixTable : List Nat := (pattern.tail.foldl (extendTable pattern) ([0], 0)).1

/-- Read a chunk; nothing is left once the pattern was found. -/
def feed (table : List Nat) : Nat → List α → Option Nat
  | matched, [] => some matched
  | matched, x :: xs =>
    let matched := advance pattern table matched x
    if matched = pattern.length then none else feed table matched xs

/-! ### The longest match -/

/-- The text ends with that much of the pattern, and with no more. -/
structure Matches (text : List α) (matched : Nat) : Prop where
  le_length : matched ≤ pattern.length
  suffix : pattern.take matched <:+ text
  longest : ∀ k ≤ pattern.length, pattern.take k <:+ text → k ≤ matched

/-- The entries of the table, for the parts of the pattern up to a length. -/
def Borders (table : List Nat) (n : Nat) : Prop :=
  ∀ m, 0 < m → m ≤ n → Matches pattern ((pattern.take m).drop 1) (table.getD (m - 1) 0)

variable {pattern} {table : List Nat} {text : List α} {x : α} {matched : Nat}

section

omit [DecidableEq α]

lemma Borders.mono {n m : Nat} (h : Borders pattern table n) (hm : m ≤ n) :
    Borders pattern table m :=
  fun k hk hkm => h k hk (hkm.trans hm)

lemma matches_nil : Matches pattern [] 0 where
  le_length := Nat.zero_le _
  suffix := by simp
  longest := by
    intro k hk h
    have hlen := congrArg List.length (List.suffix_nil.mp h)
    rw [List.length_take, List.length_nil] at hlen
    omega

lemma length_take_of_le {k : Nat} (hk : k ≤ pattern.length) : (pattern.take k).length = k := by
  rw [List.length_take, Nat.min_eq_left hk]

/-- A border is shorter than what it borders. -/
lemma Borders.lt {n m : Nat} (h : Borders pattern table n) (hm : 0 < m) (hmn : m ≤ n) :
    table.getD (m - 1) 0 < m := by
  have hborder := h m hm hmn
  have hlen := hborder.suffix.length_le
  rw [length_take_of_le hborder.le_length, List.length_drop, List.length_take] at hlen
  omega

/-- A shorter part of the pattern at the end of `pattern.take m` is at the end of its border. -/
lemma Borders.suffix_of_suffix {n m k : Nat} (h : Borders pattern table n) (hm : 0 < m)
    (hmn : m ≤ n) (hmp : m ≤ pattern.length) (hkm : k < m)
    (hk : pattern.take k <:+ pattern.take m) :
    pattern.take k <:+ pattern.take (table.getD (m - 1) 0) := by
  have hborder := h m hm hmn
  have hdrop : pattern.take k <:+ (pattern.take m).drop 1 := by
    refine List.suffix_of_suffix_length_le hk (List.drop_suffix _ _) ?_
    rw [List.length_drop, length_take_of_le hmp, length_take_of_le (hkm.le.trans hmp)]
    omega
  have hle := hborder.longest k (hkm.le.trans hmp) hdrop
  refine List.suffix_of_suffix_length_le hdrop hborder.suffix ?_
  rw [length_take_of_le (hkm.le.trans hmp), length_take_of_le hborder.le_length]
  exact hle

end

theorem fallBack_spec {fuel : Nat} (h : Borders pattern table matched) (hfuel : matched ≤ fuel)
    (hlen : matched ≤ pattern.length) :
    let r := fallBack pattern table x fuel matched
    pattern.take r <:+ pattern.take matched ∧ r ≤ matched ∧ (pattern[r]? = some x ∨ r = 0) ∧
      ∀ k ≤ matched, pattern.take k <:+ pattern.take matched → pattern[k]? = some x → k ≤ r := by
  induction fuel generalizing matched with
  | zero =>
    rw [Nat.le_zero.mp hfuel]
    exact ⟨List.suffix_rfl, le_rfl, Or.inr rfl, fun k hk _ _ => hk⟩
  | succ fuel ih =>
    simp only [fallBack]
    split_ifs with hback
    · obtain ⟨hpos, hmiss⟩ := hback
      have hm : 0 < matched := Nat.pos_of_ne_zero hpos
      have hlt := h.lt hm le_rfl
      obtain ⟨hsuffix, hle, hstop, hlongest⟩ := ih (h.mono hlt.le) (by omega) (by omega)
      have hborder := h matched hm le_rfl
      refine ⟨hsuffix.trans (hborder.suffix.trans (List.drop_suffix _ _)), by omega, hstop, ?_⟩
      intro k hk hksuffix hkx
      have hkm : k < matched := lt_of_le_of_ne hk fun heq => hmiss (heq ▸ hkx)
      have hshort := h.suffix_of_suffix hm le_rfl hlen hkm hksuffix
      have hkle : k ≤ table.getD (matched - 1) 0 := by
        have hlength := hshort.length_le
        rwa [length_take_of_le (hkm.le.trans hlen), length_take_of_le hborder.le_length] at hlength
      exact hlongest k hkle hshort hkx
    · refine ⟨List.suffix_rfl, le_rfl, ?_, fun k hk _ _ => hk⟩
      by_cases hzero : matched = 0
      · exact Or.inr hzero
      · exact Or.inl (not_not.mp fun hmiss => hback ⟨hzero, hmiss⟩)

omit [DecidableEq α] in
/-- What ends a text and one more element is one element longer than what ends the text. -/
lemma take_succ_suffix_concat {k : Nat} (hk : k < pattern.length) :
    pattern.take (k + 1) <:+ text ++ [x] ↔ pattern.take k <:+ text ∧ pattern[k]? = some x := by
  rw [List.take_succ_eq_append_getElem hk, List.getElem?_eq_getElem hk, Option.some.injEq]
  constructor
  · rintro ⟨front, hfront⟩
    rw [← List.append_assoc] at hfront
    obtain ⟨htext, hx⟩ := List.append_inj' hfront rfl
    exact ⟨⟨front, htext⟩, List.singleton_inj.mp hx⟩
  · rintro ⟨⟨front, hfront⟩, hx⟩
    exact ⟨front, by rw [← List.append_assoc, hfront, hx]⟩

/-- One more element of the text. -/
theorem Matches.advance (h : Matches pattern text matched) (hlt : matched < pattern.length)
    (hborders : Borders pattern table matched) :
    Matches pattern (text ++ [x]) (advance pattern table matched x) := by
  obtain ⟨hsuffix, hle, hstop, hlongest⟩ :=
    fallBack_spec (x := x) hborders le_rfl hlt.le
  -- what ends the text is what ends the part of the pattern that ends it
  have hends : ∀ k < pattern.length, pattern.take k <:+ text → pattern[k]? = some x →
      k ≤ fallBack pattern table x matched matched := by
    intro k hk hktext hkx
    have hkle := h.longest k hk.le hktext
    refine hlongest k hkle (List.suffix_of_suffix_length_le hktext h.suffix ?_) hkx
    rw [length_take_of_le hk.le, length_take_of_le h.le_length]
    exact hkle
  rw [PatternMatch.advance]
  set r := fallBack pattern table x matched matched
  by_cases hx : pattern[r]? = some x
  · rw [if_pos hx]
    have hr : r < pattern.length := lt_of_le_of_lt hle hlt
    refine ⟨hr, (take_succ_suffix_concat hr).mpr ⟨hsuffix.trans h.suffix, hx⟩, ?_⟩
    intro k hk hksuffix
    cases k with
    | zero => exact Nat.zero_le _
    | succ k =>
      obtain ⟨hktext, hkx⟩ := (take_succ_suffix_concat hk).mp hksuffix
      exact Nat.succ_le_succ (hends k hk hktext hkx)
  · rw [if_neg hx]
    have hzero := hstop.resolve_left hx
    clear_value r
    subst hzero
    refine ⟨Nat.zero_le _, by simp, ?_⟩
    intro k hk hksuffix
    cases k with
    | zero => exact le_rfl
    | succ k =>
      obtain ⟨hktext, hkx⟩ := (take_succ_suffix_concat hk).mp hksuffix
      rw [Nat.le_zero.mp (hends k hk hktext hkx)] at hkx
      exact absurd hkx hx

/-! ### The table -/

omit [DecidableEq α] in
lemma Borders.concat {n matched : Nat} (h : Borders pattern table n) (hlength : table.length = n)
    (hmatches : Matches pattern ((pattern.take (n + 1)).drop 1) matched) :
    Borders pattern (table ++ [matched]) (n + 1) := by
  intro m hm hmn
  rcases Nat.lt_or_ge m (n + 1) with hlt | hge
  · have hget : (table ++ [matched]).getD (m - 1) 0 = table.getD (m - 1) 0 := by
      rw [List.getD_eq_getElem?_getD, List.getD_eq_getElem?_getD,
        List.getElem?_append_left (by omega)]
    rw [hget]
    exact h m hm (by omega)
  · have hmn' : m = n + 1 := le_antisymm hmn hge
    subst hmn'
    have hget : (table ++ [matched]).getD (n + 1 - 1) 0 = matched := by
      rw [List.getD_eq_getElem?_getD, List.getElem?_append_right (by omega), hlength,
        Nat.add_sub_cancel, Nat.sub_self]
      rfl
    rw [hget]
    exact hmatches

/-- The table after the elements `seen` of the pattern. -/
def TableInvariant (pattern seen : List α) (s : List Nat × Nat) : Prop :=
  s.1.length = seen.length ∧ Borders pattern s.1 seen.length ∧
    Matches pattern (seen.drop 1) s.2

lemma TableInvariant.extend {seen rest : List α} {s : List Nat × Nat} (hseen : seen ≠ [])
    (h : TableInvariant pattern seen s) (hpattern : pattern = seen ++ x :: rest) :
    TableInvariant pattern (seen ++ [x]) (extendTable pattern s x) := by
  obtain ⟨hlength, hborders, hmatches⟩ := h
  have hpos : 0 < seen.length := List.length_pos_of_ne_nil hseen
  have hlt : seen.length < pattern.length := by rw [hpattern]; simp
  have hmatched : s.2 ≤ seen.length := by
    have hlen := hmatches.suffix.length_le
    rw [length_take_of_le hmatches.le_length, List.length_drop] at hlen
    omega
  have hnext := hmatches.advance (x := x) (by omega) (hborders.mono hmatched)
  have htext : seen.drop 1 ++ [x] = (seen ++ [x]).drop 1 := by
    rw [List.drop_append_of_le_length hpos]
  rw [htext] at hnext
  have htake : pattern.take (seen.length + 1) = seen ++ [x] := by
    rw [hpattern, List.append_cons, List.take_left' (by simp)]
  have hlen : (seen ++ [x]).length = seen.length + 1 := by simp
  rw [TableInvariant, hlen]
  refine ⟨by simp [extendTable, hlength], ?_, hnext⟩
  exact hborders.concat hlength (by rw [htake]; exact hnext)

lemma tableInvariant_foldl {seen rest : List α} {s : List Nat × Nat} (hseen : seen ≠ [])
    (h : TableInvariant pattern seen s) (hpattern : pattern = seen ++ rest) :
    TableInvariant pattern pattern (rest.foldl (extendTable pattern) s) := by
  induction rest generalizing seen s with
  | nil =>
    rw [List.append_nil] at hpattern
    subst hpattern
    exact h
  | cons x rest ih =>
    rw [List.foldl_cons]
    refine ih (by simp) (h.extend hseen hpattern) ?_
    rw [hpattern, List.append_assoc, List.singleton_append]

lemma tableInvariant_prefixTable (hpattern : pattern ≠ []) :
    TableInvariant pattern pattern (pattern.tail.foldl (extendTable pattern) ([0], 0)) := by
  cases pattern with
  | nil => exact absurd rfl hpattern
  | cons x rest =>
    have hstart : TableInvariant (x :: rest) [x] ([0], 0) := by
      refine ⟨rfl, ?_, matches_nil⟩
      intro m hm hmn
      obtain rfl : m = 1 := le_antisymm hmn hm
      exact matches_nil
    exact tableInvariant_foldl (List.cons_ne_nil _ _) hstart rfl

theorem borders_prefixTable (hpattern : pattern ≠ []) :
    Borders pattern (prefixTable pattern) pattern.length :=
  (tableInvariant_prefixTable hpattern).2.1

/-- The borders of the parts of the pattern are all that the table may hold. -/
theorem eq_prefixTable (hpattern : pattern ≠ []) (hlength : table.length = pattern.length)
    (h : Borders pattern table pattern.length) : table = prefixTable pattern := by
  have hsame : (prefixTable pattern).length = pattern.length :=
    (tableInvariant_prefixTable hpattern).1
  refine List.ext_getElem (hlength.trans hsame.symm) fun n hn hn' => ?_
  have hentry := h (n + 1) n.succ_pos (by omega)
  have hentry' := borders_prefixTable hpattern (n + 1) n.succ_pos (by omega)
  simp only [Nat.add_sub_cancel, List.getD_eq_getElem?_getD, List.getElem?_eq_getElem hn,
    List.getElem?_eq_getElem hn', Option.getD_some] at hentry hentry'
  exact le_antisymm (hentry'.longest _ hentry.le_length hentry.suffix)
    (hentry.longest _ hentry'.le_length hentry'.suffix)

/-! ### Feeding chunks -/

/-- The pattern was not found in the text, and the matcher knows how the text ends. -/
structure Scanned (pattern text : List α) (matched : Nat) : Prop where
  absent : ¬ pattern <:+: text
  ends : Matches pattern text matched
  lt_length : matched < pattern.length

omit [DecidableEq α] in
lemma scanned_nil (hpattern : pattern ≠ []) : Scanned pattern [] 0 where
  absent := fun h => hpattern (List.infix_nil.mp h)
  ends := matches_nil
  lt_length := List.length_pos_of_ne_nil hpattern

omit [DecidableEq α] in
/-- The pattern is found where it ends. -/
lemma Matches.infix_concat_iff (hold : ¬ pattern <:+: text)
    (h : Matches pattern (text ++ [x]) matched) :
    pattern <:+: text ++ [x] ↔ matched = pattern.length := by
  rw [List.infix_concat_iff, or_iff_left hold]
  constructor
  · intro hsuffix
    refine le_antisymm h.le_length (h.longest _ le_rfl ?_)
    rwa [List.take_length]
  · intro heq
    have hsuffix := h.suffix
    rwa [heq, List.take_length] at hsuffix

theorem Scanned.feed {xs : List α} (hpattern : pattern ≠ []) (h : Scanned pattern text matched) :
    (∀ matched', feed pattern (prefixTable pattern) matched xs = some matched' →
      Scanned pattern (text ++ xs) matched') ∧
      (feed pattern (prefixTable pattern) matched xs = none → pattern <:+: text ++ xs) := by
  induction xs generalizing text matched with
  | nil =>
    rw [List.append_nil]
    refine ⟨fun matched' hfeed => ?_, fun hfeed => (nomatch hfeed)⟩
    rwa [← Option.some.inj hfeed]
  | cons x xs ih =>
    have hnext := h.ends.advance (x := x) h.lt_length
      ((borders_prefixTable hpattern).mono h.lt_length.le)
    have hfound := hnext.infix_concat_iff h.absent
    rw [List.append_cons]
    simp only [PatternMatch.feed]
    split_ifs with hlength
    · refine ⟨fun matched' hfeed => (nomatch hfeed), fun _ => ?_⟩
      exact (hfound.mpr hlength).trans (List.prefix_append _ _).isInfix
    · refine ih ⟨fun hinfix => hlength (hfound.mp hinfix), hnext, ?_⟩
      exact lt_of_le_of_ne hnext.le_length hlength

end PatternMatch

end EdaGym
