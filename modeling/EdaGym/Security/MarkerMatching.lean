import EdaGym.Lib.Lines
import EdaGym.Lib.PatternMatch

/-!
# The marker matcher

The collector feeds the bytes of a surface, chunk by chunk, to a matcher of the marker. Here every
index of the source is one that may be out of range; the matcher of the library has none.
-/

namespace EdaGym

open PatternMatch (Borders Matches Scanned)

/-- A `_MarkerMatcher`: `_marker`, `_prefix` and `_matched`. -/
structure MarkerMatcher where
  marker : Bytes
  table : List Nat
  matched : Nat
deriving DecidableEq

namespace MarkerMatcher

/-! ### The matcher -/

section Step

variable (marker : Bytes) (table : List Nat)

/-- The inner loop of `feed` and `_prefix_table`; nothing when an index is out of range, or when the
loop goes on after `fuel` rounds. -/
def fallBack (byte : UInt8) : Nat → Nat → Option Nat
  | 0, matched => if matched = 0 then some 0 else none
  | fuel + 1, matched =>
    if matched = 0 then some 0
    else do
      let current ← marker[matched]?
      if byte = current then some matched
      else do
        let shorter ← table[matched - 1]?
        fallBack byte fuel shorter

/-- What both methods do with one byte. The counter reaches the length of the marker only when it
grows, so that `feed` may compare the two after the step. -/
def step (matched : Nat) (byte : UInt8) : Option Nat := do
  let matched ← fallBack marker table byte matched matched
  let current ← marker[matched]?
  some (if byte = current then matched + 1 else matched)

end Step

/-- One index of `_prefix_table`. -/
def tableStep (marker : Bytes) (s : List Nat × Nat) (index : Nat) : Option (List Nat × Nat) := do
  let byte ← marker[index]?
  let matched ← step marker s.1 s.2 byte
  let _ ← s.1[index]?
  some (s.1.set index matched, matched)

def prefixTable (marker : Bytes) : Option (List Nat) := do
  let s ← (List.range' 1 (marker.length - 1)).foldlM (tableStep marker)
    (List.replicate marker.length 0, 0)
  some s.1

/-- `__init__`, which refuses an empty marker. -/
def init (marker : Bytes) : Option MarkerMatcher := do
  if marker = [] then none
  else
    let table ← prefixTable marker
    some { marker, table, matched := 0 }

def feed (m : MarkerMatcher) : Bytes → Option (Bool × MarkerMatcher)
  | [] => some (false, m)
  | byte :: chunk => do
    let matched ← step m.marker m.table m.matched byte
    if matched = m.marker.length then some (true, { m with matched })
    else feed { m with matched } chunk

/-- Calls of `feed`, one after another, and what each of them returns. -/
def feedAll (m : MarkerMatcher) : List Bytes → Option (List Bool × MarkerMatcher)
  | [] => some ([], m)
  | chunk :: chunks => do
    let (found, m) ← m.feed chunk
    let (results, m) ← feedAll m chunks
    some (found :: results, m)

/-! ### The matcher of the library -/

section Borders

variable {marker : Bytes} {table : List Nat} {matched : Nat} {byte : UInt8}

lemma fallBack_eq {fuel : Nat} (hborders : Borders marker table matched)
    (hlength : matched ≤ table.length) (hlt : matched < marker.length) (hfuel : matched ≤ fuel) :
    fallBack marker table byte fuel matched =
      some (PatternMatch.fallBack marker table byte fuel matched) := by
  induction fuel generalizing matched with
  | zero =>
    rw [Nat.le_zero.mp hfuel]
    rfl
  | succ fuel ih =>
    simp only [fallBack, PatternMatch.fallBack, List.getElem?_eq_getElem hlt, Option.bind_eq_bind,
      Option.bind_some]
    by_cases hzero : matched = 0
    · simp [hzero]
    by_cases hbyte : byte = marker[matched]
    · simp [hzero, hbyte]
    · have hmiss : some marker[matched] ≠ some byte := fun h => hbyte (Option.some.inj h).symm
      have hindex : matched - 1 < table.length := by omega
      have hshort := hborders.lt (Nat.pos_of_ne_zero hzero) le_rfl
      rw [if_neg hzero, if_neg hbyte, if_pos ⟨hzero, hmiss⟩,
        List.getElem?_eq_getElem hindex, Option.bind_some,
        show table[matched - 1] = table.getD (matched - 1) 0 by simp [hindex]]
      exact ih (hborders.mono hshort.le) (by omega) (by omega) (by omega)

lemma step_eq (hborders : Borders marker table matched) (hlength : matched ≤ table.length)
    (hlt : matched < marker.length) :
    step marker table matched byte = some (PatternMatch.advance marker table matched byte) := by
  have hle := (PatternMatch.fallBack_spec (x := byte) hborders le_rfl hlt.le).2.1
  have hindex := lt_of_le_of_lt hle hlt
  rw [step, fallBack_eq hborders hlength hlt le_rfl]
  simp only [PatternMatch.advance, Option.bind_eq_bind, Option.bind_some,
    List.getElem?_eq_getElem hindex, Option.some.injEq, eq_comm (a := byte)]

/-- The table up to an index, and the counter there. -/
structure Filled (marker : Bytes) (index : Nat) (s : List Nat × Nat) : Prop where
  length : s.1.length = marker.length
  borders : Borders marker s.1 index
  ends : Matches marker ((marker.take index).drop 1) s.2

lemma Filled.tableStep {index : Nat} {s : List Nat × Nat} (h : Filled marker index s)
    (hpos : 0 < index) (hlt : index < marker.length) :
    ∃ s', MarkerMatcher.tableStep marker s index = some s' ∧ Filled marker (index + 1) s' := by
  have hmatched : s.2 < index := by
    have hlen := h.ends.suffix.length_le
    rw [PatternMatch.length_take_of_le h.ends.le_length, List.length_drop, List.length_take] at hlen
    omega
  have hborders := h.borders.mono hmatched.le
  have hnext := h.ends.advance (x := marker[index]) (hmatched.trans hlt) hborders
  rw [← List.drop_append_of_le_length (by rw [List.length_take]; omega),
    ← List.take_succ_eq_append_getElem hlt] at hnext
  set matched := PatternMatch.advance marker s.1 s.2 marker[index]
  refine ⟨(s.1.set index matched, matched), ?_, by simp [h.length], ?_, hnext⟩
  · have hstep : step marker s.1 s.2 marker[index] = some matched :=
      step_eq hborders (by rw [h.length]; omega) (hmatched.trans hlt)
    simp [MarkerMatcher.tableStep, hlt, hstep, h.length]
  · intro m hm hmn
    rcases Nat.lt_or_ge m (index + 1) with hold | hnew
    · have hget : (s.1.set index matched).getD (m - 1) 0 = s.1.getD (m - 1) 0 := by
        rw [List.getD_eq_getElem?_getD, List.getElem?_set_ne (by omega),
          List.getD_eq_getElem?_getD]
      rw [hget]
      exact h.borders m hm (by omega)
    · obtain rfl : m = index + 1 := le_antisymm hmn hnew
      simpa [h.length, hlt] using hnext

lemma Filled.foldlM {n index : Nat} {s : List Nat × Nat} (h : Filled marker index s)
    (hpos : 0 < index) (hlength : index + n = marker.length) :
    ∃ s', (List.range' index n).foldlM (MarkerMatcher.tableStep marker) s = some s' ∧
      Filled marker marker.length s' := by
  induction n generalizing index s with
  | zero => exact ⟨s, rfl, hlength ▸ h⟩
  | succ n ih =>
    obtain ⟨s', hstep, hfilled⟩ := h.tableStep hpos (by omega)
    rw [List.range'_succ, List.foldlM_cons, hstep]
    exact ih hfilled index.succ_pos (by omega)

theorem prefixTable_eq (hmarker : marker ≠ []) :
    prefixTable marker = some (PatternMatch.prefixTable marker) := by
  have hpos := List.length_pos_of_ne_nil hmarker
  have hstart : Filled marker 1 (List.replicate marker.length 0, 0) := by
    refine ⟨List.length_replicate, ?_, by simpa using PatternMatch.matches_nil⟩
    intro m hm hmn
    obtain rfl : m = 1 := le_antisymm hmn hm
    simpa [hpos] using PatternMatch.matches_nil
  obtain ⟨s, hs, hfilled⟩ := hstart.foldlM Nat.one_pos (Nat.add_sub_cancel' hpos)
  rw [prefixTable, hs, ← PatternMatch.eq_prefixTable hmarker hfilled.length hfilled.borders]
  rfl

end Borders

section Feed

variable {marker text : Bytes} {matched : Nat}

/-- The matcher of a marker, with that counter. -/
def counting (marker : Bytes) (matched : Nat) : MarkerMatcher :=
  { marker, table := PatternMatch.prefixTable marker, matched }

lemma feed_counting (hmarker : marker ≠ []) (hlt : matched < marker.length) (chunk : Bytes) :
    (counting marker matched).feed chunk =
      match PatternMatch.feed marker (PatternMatch.prefixTable marker) matched chunk with
      | none => some (true, counting marker marker.length)
      | some matched => some (false, counting marker matched) := by
  induction chunk generalizing matched with
  | nil => rfl
  | cons byte chunk ih =>
    have hborders := (PatternMatch.borders_prefixTable hmarker).mono hlt.le
    have hlength := (PatternMatch.tableInvariant_prefixTable hmarker).1
    have hle := (PatternMatch.fallBack_spec (x := byte) hborders le_rfl hlt.le).2.1
    have hstep := @step_eq _ _ _ byte hborders (hlt.le.trans_eq hlength.symm) hlt
    have hnext : PatternMatch.advance marker (PatternMatch.prefixTable marker) matched byte ≤
        marker.length := by
      rw [PatternMatch.advance]
      split_ifs <;> omega
    show (step marker (PatternMatch.prefixTable marker) matched byte).bind _ = _
    rw [PatternMatch.feed, hstep, Option.bind_some]
    by_cases hfound : PatternMatch.advance marker (PatternMatch.prefixTable marker) matched byte =
        marker.length
    · rw [if_pos hfound, hfound]
      exact if_pos rfl
    · rw [if_neg hfound]
      refine (if_neg hfound).trans ?_
      exact ih (lt_of_le_of_ne hnext hfound)

/-- A call that does not find the marker. -/
lemma feed_of_absent (hmarker : marker ≠ []) (h : Scanned marker text matched) {chunk : Bytes}
    (habsent : ¬ marker <:+: text ++ chunk) :
    ∃ matched', (counting marker matched).feed chunk = some (false, counting marker matched') ∧
      Scanned marker (text ++ chunk) matched' := by
  obtain ⟨hgoes, hfound⟩ := @Scanned.feed _ _ _ _ _ chunk hmarker h
  rw [feed_counting hmarker h.lt_length]
  cases hfeed : PatternMatch.feed marker (PatternMatch.prefixTable marker) matched chunk with
  | none => exact absurd (hfound hfeed) habsent
  | some matched' => exact ⟨matched', rfl, hgoes matched' hfeed⟩

/-- A call that finds it. -/
lemma feed_of_occurs (hmarker : marker ≠ []) (h : Scanned marker text matched) {chunk : Bytes}
    (hoccurs : marker <:+: text ++ chunk) :
    (counting marker matched).feed chunk = some (true, counting marker marker.length) := by
  obtain ⟨hgoes, -⟩ := @Scanned.feed _ _ _ _ _ chunk hmarker h
  rw [feed_counting hmarker h.lt_length]
  cases hfeed : PatternMatch.feed marker (PatternMatch.prefixTable marker) matched chunk with
  | none => rfl
  | some matched' => exact absurd hoccurs (hgoes matched' hfeed).absent

lemma feedAll_of_absent (hmarker : marker ≠ []) (h : Scanned marker text matched)
    {chunks : List Bytes} (habsent : ¬ marker <:+: text ++ chunks.flatten) :
    ∃ matched', (counting marker matched).feedAll chunks =
        some (chunks.map fun _ => false, counting marker matched') ∧
      Scanned marker (text ++ chunks.flatten) matched' := by
  induction chunks generalizing text matched with
  | nil => exact ⟨matched, rfl, by simpa using h⟩
  | cons chunk chunks ih =>
    rw [List.flatten_cons, ← List.append_assoc] at habsent ⊢
    have hchunk : ¬ marker <:+: text ++ chunk := fun hoccurs =>
      habsent (hoccurs.trans (List.prefix_append _ _).isInfix)
    obtain ⟨next, hfeed, hscanned⟩ := feed_of_absent hmarker h hchunk
    obtain ⟨last, hall, hend⟩ := ih hscanned habsent
    exact ⟨last, by simp [feedAll, hfeed, hall], hend⟩

/-- The longest proper border of the first bytes of a marker. -/
def IsLongestBorder (marker : Bytes) (n border : Nat) : Prop :=
  border < n ∧ marker.take border <:+ marker.take n ∧
    ∀ k < n, marker.take k <:+ marker.take n → k ≤ border

lemma isLongestBorder_prefixTable (hmarker : marker ≠ []) {n : Nat} (hpos : 0 < n)
    (hn : n ≤ marker.length) :
    IsLongestBorder marker n ((PatternMatch.prefixTable marker).getD (n - 1) 0) := by
  have hborders := PatternMatch.borders_prefixTable hmarker
  have hentry := hborders n hpos hn
  refine ⟨hborders.lt hpos hn, hentry.suffix.trans (List.drop_suffix _ _), fun k hk hsuffix => ?_⟩
  have hlength := (hborders.suffix_of_suffix hpos hn hn hk hsuffix).length_le
  rwa [PatternMatch.length_take_of_le (hk.le.trans hn),
    PatternMatch.length_take_of_le hentry.le_length] at hlength

theorem feed_exact {marker : Bytes} (hmarker : marker ≠ []) :
    ∃ table, init marker = some { marker, table, matched := 0 } ∧
      table.length = marker.length ∧
      (∀ n, 0 < n → n ≤ marker.length → IsLongestBorder marker n (table.getD (n - 1) 0)) ∧
      ∀ chunks : List Bytes, ¬ marker <:+: chunks.flatten →
        ∃ matched, feedAll { marker, table, matched := 0 } chunks =
            some (chunks.map fun _ => false, { marker, table, matched }) ∧
          Matches marker chunks.flatten matched ∧
          ∀ chunk, marker <:+: chunks.flatten ++ chunk →
            feed { marker, table, matched } chunk =
              some (true, { marker, table, matched := marker.length }) := by
  refine ⟨PatternMatch.prefixTable marker, ?_,
    (PatternMatch.tableInvariant_prefixTable hmarker).1,
    fun n => isLongestBorder_prefixTable hmarker, fun chunks habsent => ?_⟩
  · rw [init, if_neg hmarker, prefixTable_eq hmarker]
    rfl
  · have hstart := PatternMatch.scanned_nil hmarker
    obtain ⟨matched, hall, hscanned⟩ := feedAll_of_absent hmarker hstart habsent
    exact ⟨matched, hall, hscanned.ends, fun chunk => feed_of_occurs hmarker hscanned⟩

/-- The marker `abab`, in two chunks that cut it. -/
theorem feed_exact_abab :
    ∃ table, init [97, 98, 97, 98] = some { marker := [97, 98, 97, 98], table, matched := 0 } ∧
      ∃ matched, feedAll { marker := [97, 98, 97, 98], table, matched := 0 } [[97, 98], [98, 97]] =
          some ([false, false], { marker := [97, 98, 97, 98], table, matched }) ∧
        feed { marker := [97, 98, 97, 98], table, matched } [98, 97, 98, 99] =
          some (true, { marker := [97, 98, 97, 98], table, matched := 4 }) := by
  obtain ⟨table, hinit, -, -, hfeed⟩ := @feed_exact [97, 98, 97, 98] (by decide)
  obtain ⟨matched, hall, -, hfound⟩ := hfeed [[97, 98], [98, 97]] (by decide)
  exact ⟨table, hinit, matched, hall, hfound [98, 97, 98, 99] (by decide)⟩

/-- A call that finds the marker leaves the rest of its chunk, and no call may follow it. -/
theorem feed_found :
    ∃ m, init [97] = some m ∧ m.feed [97, 98] = some (true, { m with matched := 1 }) ∧
      ¬ Matches [97] ([97, 98] : Bytes) 1 ∧ feed { m with matched := 1 } [98] = none := by
  refine ⟨counting [97] 0, rfl, by decide, fun h => ?_, by decide⟩
  exact absurd h.suffix (by decide)

end Feed

end MarkerMatcher

end EdaGym
