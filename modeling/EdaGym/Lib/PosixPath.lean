import Mathlib.Data.List.Basic
import Mathlib.Data.String.Basic
import Mathlib.Tactic.Lemma

/-!
# Relative POSIX paths

The parts of a path are what stands between its slashes, empty parts and `.` left out. Joining the
parts normalises the path, and normal parts can be read back from their join.
-/

namespace EdaGym

/-- What stands between slashes; `cur` is the part being read. -/
def slashParts (cur : List Char) : List Char → List (List Char)
  | [] => [cur]
  | c :: cs => if c = '/' then cur :: slashParts [] cs else slashParts (cur ++ [c]) cs

/-- A part that a path keeps. -/
def keepsPart (part : List Char) : Bool := part ≠ [] ∧ part ≠ ['.']

/-- `PurePosixPath(value).parts` of a relative path. -/
def posixParts (value : String) : List String :=
  ((slashParts [] value.toList).filter keepsPart).map String.ofList

/-- The characters of parts joined by slashes. -/
def joinSlash : List (List Char) → List Char
  | [] => []
  | [part] => part
  | part :: parts => part ++ '/' :: joinSlash parts

/-- `PurePosixPath(*parts).as_posix()`. -/
def asPosix (parts : List String) : String :=
  if parts = [] then "." else String.ofList (joinSlash (parts.map String.toList))

/-- `PurePosixPath(value).is_absolute()`. -/
def isAbsolutePath (value : String) : Bool := value.toList.head? = some '/'

/-- A string that can be one part of a path. -/
def IsPart (part : String) : Prop := part ≠ "" ∧ part ≠ "." ∧ '/' ∉ part.toList

instance (part : String) : Decidable (IsPart part) := inferInstanceAs (Decidable (_ ∧ _))

lemma slashParts_append {part : List Char} (h : '/' ∉ part) (cur rest : List Char) :
    slashParts cur (part ++ rest) = slashParts (cur ++ part) rest := by
  induction part generalizing cur with
  | nil => simp
  | cons c part ih =>
    rw [List.mem_cons, not_or] at h
    rw [List.cons_append, slashParts, if_neg (Ne.symm h.1), ih h.2]
    simp

lemma slashParts_joinSlash {parts : List (List Char)} (hne : parts ≠ [])
    (h : ∀ part ∈ parts, '/' ∉ part) : slashParts [] (joinSlash parts) = parts := by
  induction parts with
  | nil => exact absurd rfl hne
  | cons part parts ih =>
    rw [List.forall_mem_cons] at h
    cases parts with
    | nil =>
      have happ := slashParts_append h.1 [] []
      rw [List.append_nil, List.nil_append] at happ
      rw [joinSlash, happ]
      rfl
    | cons part' parts =>
      have hjoin : joinSlash (part :: part' :: parts) =
          part ++ '/' :: joinSlash (part' :: parts) := rfl
      rw [hjoin, slashParts_append h.1, List.nil_append, slashParts, if_pos rfl,
        ih (List.cons_ne_nil _ _) h.2]

lemma slashParts_no_slash {cs cur : List Char} (hcur : '/' ∉ cur) :
    ∀ part ∈ slashParts cur cs, '/' ∉ part := by
  induction cs generalizing cur with
  | nil => simpa [slashParts] using hcur
  | cons c cs ih =>
    rw [slashParts]
    split_ifs with hc
    · rw [List.forall_mem_cons]
      exact ⟨hcur, ih List.not_mem_nil⟩
    · apply ih
      simp [hcur, Ne.symm hc]

lemma isPart_of_mem_posixParts {value part : String} (h : part ∈ posixParts value) :
    IsPart part := by
  obtain ⟨cs, hcs, rfl⟩ := List.mem_map.mp h
  obtain ⟨hmem, hkeep⟩ := List.mem_filter.mp hcs
  simp only [keepsPart, ne_eq, decide_eq_true_eq] at hkeep
  refine ⟨?_, ?_, ?_⟩
  · intro heq
    apply hkeep.1
    have hlist := congrArg String.toList heq
    simpa using hlist
  · intro heq
    apply hkeep.2
    have hlist := congrArg String.toList heq
    simpa using hlist
  · rw [String.toList_ofList]
    exact slashParts_no_slash List.not_mem_nil cs hmem

/-- The parts of a normal path can be read back. -/
theorem posixParts_asPosix {parts : List String} (h : ∀ part ∈ parts, IsPart part) :
    posixParts (asPosix parts) = parts := by
  cases parts with
  | nil => rfl
  | cons part rest =>
    have hne : (part :: rest).map String.toList ≠ [] := by simp
    have hslash : ∀ cs ∈ (part :: rest).map String.toList, '/' ∉ cs := by
      intro cs hcs
      obtain ⟨p, hp, rfl⟩ := List.mem_map.mp hcs
      exact (h p hp).2.2
    rw [asPosix, if_neg (List.cons_ne_nil _ _), posixParts, String.toList_ofList,
      slashParts_joinSlash hne hslash, List.filter_eq_self.mpr]
    · rw [List.map_map]
      conv_rhs => rw [← List.map_id (part :: rest)]
      apply List.map_congr_left
      intro p _
      simp
    · intro cs hcs
      obtain ⟨p, hp, rfl⟩ := List.mem_map.mp hcs
      obtain ⟨hempty, hdot, -⟩ := h p hp
      simp only [keepsPart, ne_eq, decide_eq_true_eq]
      refine ⟨?_, ?_⟩
      · intro hnil
        apply hempty
        rw [← String.ofList_toList (s := p), hnil]
      · intro heq
        apply hdot
        rw [← String.ofList_toList (s := p), heq]

end EdaGym
