import Mathlib.Data.List.Induction
import Mathlib.Tactic.Lemma

/-!
# Records read from a stream of chunks

A stream holds records one after the other. A reader keeps what it has not read yet in a buffer and
takes records off its front as long as a whole one is there. It sees the records of the stream,
however the stream is cut into chunks.
-/

namespace EdaGym

universe u v w
variable {α : Type u} {ρ : Type v} {σ : Type w}

/-! ### Formats -/

/-- A format whose records can be told from what follows them. -/
structure RecordFormat (α : Type u) (ρ : Type v) where
  encode : ρ → List α
  /-- The first record of a buffer, and what follows it. -/
  next : List α → Option (ρ × List α)
  Valid : ρ → Prop
  next_eq_some : ∀ {buffer r rest}, next buffer = some (r, rest) ↔
    Valid r ∧ buffer = encode r ++ rest
  encode_ne_nil : ∀ r, encode r ≠ []

namespace RecordFormat

variable (F : RecordFormat α ρ)

/-- The stream of these records. -/
def stream (rs : List ρ) : List α := rs.flatMap F.encode

@[simp] lemma stream_nil : F.stream [] = [] := rfl

@[simp] lemma stream_cons (r : ρ) (rs : List ρ) : F.stream (r :: rs) = F.encode r ++ F.stream rs :=
  rfl

lemma stream_append (rs rs' : List ρ) : F.stream (rs ++ rs') = F.stream rs ++ F.stream rs' :=
  List.flatMap_append

lemma next_nil : F.next [] = none := by
  cases h : F.next [] with
  | none => rfl
  | some p =>
    obtain ⟨-, hnil⟩ := F.next_eq_some.mp (by rw [h] : F.next [] = some (p.1, p.2))
    exact absurd (List.append_eq_nil_iff.mp hnil.symm).1 (F.encode_ne_nil _)

/-- A stream is read in one way only. -/
theorem stream_inj {rs rs' : List ρ} {left : List α} (hrs : ∀ r ∈ rs, F.Valid r)
    (hrs' : ∀ r ∈ rs', F.Valid r) (hleft : F.next left = none)
    (h : F.stream rs ++ left = F.stream rs') : rs = rs' ∧ left = [] := by
  induction rs generalizing rs' with
  | nil =>
    rw [stream_nil, List.nil_append] at h
    cases rs' with
    | nil => exact ⟨rfl, h⟩
    | cons r' rs' =>
      rw [F.next_eq_some.mpr ⟨hrs' r' (List.mem_cons_self ..), h⟩] at hleft
      cases hleft
  | cons r rs ih =>
    rw [List.forall_mem_cons] at hrs
    rw [stream_cons, List.append_assoc] at h
    have hnext : F.next (F.encode r ++ (F.stream rs ++ left)) = some (r, F.stream rs ++ left) :=
      F.next_eq_some.mpr ⟨hrs.1, rfl⟩
    rw [h] at hnext
    cases rs' with
    | nil =>
      rw [stream_nil, next_nil] at hnext
      cases hnext
    | cons r' rs' =>
      rw [List.forall_mem_cons] at hrs'
      rw [stream_cons, F.next_eq_some.mpr ⟨hrs'.1, rfl⟩] at hnext
      injection hnext with hpair
      injection hpair with hr hrest
      obtain ⟨hrs, hnil⟩ := ih hrs.2 hrs'.2 hrest.symm
      exact ⟨by rw [hr, hrs], hnil⟩

/-! ### Readers -/

variable (see : σ → ρ → σ)

/-- Take records off the front of the buffer, at most `fuel` of them. -/
def takeRecords : Nat → σ × List α → σ × List α
  | 0, reader => reader
  | fuel + 1, (s, buffer) =>
    match F.next buffer with
    | none => (s, buffer)
    | some (r, rest) => takeRecords fuel (see s r, rest)

/-- A chunk comes in. No buffer holds more records than elements. -/
def feed (reader : σ × List α) (chunk : List α) : σ × List α :=
  F.takeRecords see (reader.2 ++ chunk).length (reader.1, reader.2 ++ chunk)

lemma takeRecords_spec (fuel : Nat) (s : σ) (buffer : List α) (hfuel : buffer.length ≤ fuel) :
    ∃ rs, (∀ r ∈ rs, F.Valid r) ∧ (F.takeRecords see fuel (s, buffer)).1 = rs.foldl see s ∧
      buffer = F.stream rs ++ (F.takeRecords see fuel (s, buffer)).2 ∧
      F.next (F.takeRecords see fuel (s, buffer)).2 = none := by
  induction fuel generalizing s buffer with
  | zero =>
    have hnil : buffer = [] := List.length_eq_zero_iff.mp (Nat.le_zero.mp hfuel)
    exact ⟨[], by simp, rfl, rfl, by rw [hnil]; exact F.next_nil⟩
  | succ fuel ih =>
    rw [takeRecords]
    cases hnext : F.next buffer with
    | none => exact ⟨[], by simp, rfl, rfl, hnext⟩
    | some p =>
      obtain ⟨r, rest⟩ := p
      obtain ⟨hr, hbuffer⟩ := F.next_eq_some.mp hnext
      have hlength : rest.length ≤ fuel := by
        have hpos := List.length_pos_iff.mpr (F.encode_ne_nil r)
        rw [hbuffer, List.length_append] at hfuel
        omega
      obtain ⟨rs, hrs, hstate, hrest, hend⟩ := ih (see s r) rest hlength
      refine ⟨r :: rs, List.forall_mem_cons.mpr ⟨hr, hrs⟩, hstate, ?_, hend⟩
      rw [stream_cons, List.append_assoc, ← hrest, hbuffer]

/-- What a reader has seen is what the chunks hold, but for its buffer, which holds no whole
record. -/
theorem feed_chunks (s : σ) (chunks : List (List α)) :
    ∃ rs, (∀ r ∈ rs, F.Valid r) ∧ (chunks.foldl (F.feed see) (s, [])).1 = rs.foldl see s ∧
      chunks.flatten = F.stream rs ++ (chunks.foldl (F.feed see) (s, [])).2 ∧
      F.next (chunks.foldl (F.feed see) (s, [])).2 = none := by
  induction chunks using List.reverseRecOn with
  | nil => exact ⟨[], by simp, rfl, rfl, F.next_nil⟩
  | append_singleton chunks chunk ih =>
    obtain ⟨rs, hrs, hstate, hread, -⟩ := ih
    rw [List.foldl_append]
    generalize chunks.foldl (F.feed see) (s, []) = reader at *
    obtain ⟨rs', hrs', hstate', hbuffer, hend⟩ :=
      F.takeRecords_spec see _ reader.1 (reader.2 ++ chunk) (Nat.le_refl _)
    refine ⟨rs ++ rs', ?_, ?_, ?_, hend⟩
    · intro r hr
      rcases List.mem_append.mp hr with hr | hr
      · exact hrs r hr
      · exact hrs' r hr
    · rw [List.foldl_append, ← hstate]
      exact hstate'
    · rw [List.flatten_append, List.flatten_singleton, hread, stream_append, List.append_assoc,
        List.append_assoc]
      exact congrArg _ hbuffer

/-- A reader ends with nothing left in its buffer exactly when the chunks hold a sequence of whole
records, and it has then seen these. -/
theorem feed_chunks_iff (s s' : σ) (chunks : List (List α)) :
    chunks.foldl (F.feed see) (s, []) = (s', []) ↔
      ∃ rs, (∀ r ∈ rs, F.Valid r) ∧ chunks.flatten = F.stream rs ∧ s' = rs.foldl see s := by
  obtain ⟨rs, hrs, hstate, hread, hend⟩ := F.feed_chunks see s chunks
  constructor
  · intro h
    rw [h] at hstate hread
    exact ⟨rs, hrs, by rw [hread, List.append_nil], hstate⟩
  · rintro ⟨rs', hrs', hstream, rfl⟩
    obtain ⟨rfl, hleft⟩ := F.stream_inj hrs hrs' hend (hread.symm.trans hstream)
    exact Prod.ext hstate hleft

end RecordFormat

end EdaGym
