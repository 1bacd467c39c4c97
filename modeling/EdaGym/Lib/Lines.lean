import Mathlib.Data.List.Induction

/-!
# Line-oriented files and interrupted writers

A file is a list of bytes. A writer changes it by truncating it and by appending to it; when it is
interrupted, a part of its changes, the last of them cut short, has reached the file. The lemmas say
which lines such a file still holds.
-/

namespace EdaGym

abbrev Bytes := List UInt8

def LF : UInt8 := 10

def CR : UInt8 := 13

/-! ### Lines -/

/-- The lines of the rest of a file, `line` being the part of the current line already read. A line
feed that follows a carriage return belongs to the same line ending. -/
def splitlinesFrom (line : Bytes) (afterCR : Bool) : Bytes → List Bytes
  | [] => if line = [] then [] else [line]
  | b :: rest =>
    if b = LF then
      if afterCR then splitlinesFrom [] false rest else line :: splitlinesFrom [] false rest
    else if b = CR then line :: splitlinesFrom [] true rest
    else splitlinesFrom (line ++ [b]) false rest

/-- `bytes.splitlines`: the line endings are `\n`, `\r` and `\r\n`. -/
def splitlines (data : Bytes) : List Bytes := splitlinesFrom [] false data

/-- `bytes.rfind` of a single byte. -/
def rfind (b : UInt8) : Bytes → Option Nat
  | [] => none
  | c :: rest =>
    match rfind b rest with
    | some i => some (i + 1)
    | none => if c = b then some 0 else none

/-- The length of the file up to its last line feed. -/
def durableLength (data : Bytes) : Nat :=
  if data.getLast? = some LF then data.length
  else
    match rfind LF data with
    | some boundary => boundary + 1
    | none => 0

/-- A line without a line ending in it. -/
structure Clean (line : Bytes) : Prop where
  no_lf : LF ∉ line
  no_cr : CR ∉ line

/-- The file that holds these lines. -/
def terminated (lines : List Bytes) : Bytes := lines.flatMap fun line => line ++ [LF]

variable {lines : List Bytes} {line : Bytes}

lemma terminated_cons : terminated (line :: lines) = line ++ LF :: terminated lines := by
  simp [terminated]

lemma terminated_concat : terminated (lines ++ [line]) = terminated lines ++ (line ++ [LF]) := by
  simp [terminated]

/-- A file of lines is empty or ends in a line feed. -/
lemma terminated_eq_nil_or (lines : List Bytes) :
    terminated lines = [] ∨ ∃ body, terminated lines = body ++ [LF] := by
  rcases List.eq_nil_or_concat lines with rfl | ⟨init, line, rfl⟩
  · exact Or.inl rfl
  · refine Or.inr ⟨terminated init ++ line, ?_⟩
    rw [List.concat_eq_append, terminated_concat, List.append_assoc]

lemma splitlinesFrom_clean (h : Clean line) (cur rest : Bytes) :
    splitlinesFrom cur false (line ++ LF :: rest) = (cur ++ line) :: splitlines rest := by
  induction line generalizing cur with
  | nil => simp [splitlinesFrom, splitlines]
  | cons b line ih =>
    have hlf : b ≠ LF := fun hb => h.no_lf (hb ▸ List.mem_cons_self)
    have hcr : b ≠ CR := fun hb => h.no_cr (hb ▸ List.mem_cons_self)
    have hline : Clean line :=
      ⟨fun hm => h.no_lf (List.mem_cons_of_mem _ hm), fun hm => h.no_cr (List.mem_cons_of_mem _ hm)⟩
    rw [List.cons_append, splitlinesFrom, if_neg hlf, if_neg hcr, ih hline]
    simp

lemma splitlines_terminated (h : ∀ line ∈ lines, Clean line) :
    splitlines (terminated lines) = lines := by
  induction lines with
  | nil => rfl
  | cons line lines ih =>
    rw [List.forall_mem_cons] at h
    rw [terminated_cons, splitlines, splitlinesFrom_clean h.1, ih h.2, List.nil_append]

lemma rfind_eq_none {b : UInt8} {data : Bytes} (h : b ∉ data) : rfind b data = none := by
  induction data with
  | nil => rfl
  | cons c data ih =>
    rw [List.mem_cons, not_or] at h
    rw [rfind, ih h.2]
    simp [Ne.symm h.1]

lemma rfind_append_cons {b : UInt8} {torn : Bytes} (h : b ∉ torn) (body : Bytes) :
    rfind b (body ++ b :: torn) = some body.length := by
  induction body with
  | nil => simp [rfind, rfind_eq_none h]
  | cons c body ih => simp [rfind, ih]

lemma durableLength_torn (lines : List Bytes) {torn : Bytes} (h : LF ∉ torn) :
    durableLength (terminated lines ++ torn) = (terminated lines).length := by
  rcases terminated_eq_nil_or lines with hnil | ⟨body, hbody⟩
  · have hlast : torn.getLast? ≠ some LF := fun hl => h (List.mem_of_getLast? hl)
    simp [hnil, durableLength, hlast, rfind_eq_none h]
  · rw [hbody, durableLength]
    cases torn using List.reverseRecOn with
    | nil => simp
    | append_singleton torn b =>
      have hb : b ≠ LF := fun hb => h (by simp [hb])
      have hfind : rfind LF (body ++ [LF] ++ (torn ++ [b])) = some body.length := by
        rw [List.append_assoc, List.singleton_append]
        exact rfind_append_cons h body
      rw [hfind, ← List.append_assoc, List.getLast?_concat]
      simp [hb]

/-! ### Interrupted writers -/

/-- One change of a file through an open descriptor. -/
inductive FileEffect
  | truncate (length : Nat)
  | append (content : Bytes)
deriving DecidableEq, Repr

namespace FileEffect

def apply (file : Bytes) : FileEffect → Bytes
  | truncate length => file.take length
  | append content => file ++ content

/-- The file after all the changes. -/
def applyAll (file : Bytes) (effects : List FileEffect) : Bytes := effects.foldl apply file

/-- The bytes that these changes append. -/
def written : List FileEffect → Bytes
  | [] => []
  | truncate _ :: effects => written effects
  | append content :: effects => content ++ written effects

/-- `Interrupted effects file file' bytes`: the writer stopped somewhere, leaving `file'`; of what
it was to append, `bytes` reached the file. -/
inductive Interrupted : List FileEffect → Bytes → Bytes → Bytes → Prop
  | stop (effects : List FileEffect) (file : Bytes) : Interrupted effects file file []
  | cut (content : Bytes) (effects : List FileEffect) (file : Bytes) (n : Nat) :
      Interrupted (append content :: effects) file (file ++ content.take n) (content.take n)
  | truncated {length : Nat} {effects : List FileEffect} {file file' bytes : Bytes}
      (rest : Interrupted effects (file.take length) file' bytes) :
      Interrupted (truncate length :: effects) file file' bytes
  | appended {content : Bytes} {effects : List FileEffect} {file file' bytes : Bytes}
      (rest : Interrupted effects (file ++ content) file' bytes) :
      Interrupted (append content :: effects) file file' (content ++ bytes)

/-- A writer that finishes is one that stops after all its changes. -/
lemma Interrupted.complete (effects : List FileEffect) (file : Bytes) :
    Interrupted effects file (applyAll file effects) (written effects) := by
  induction effects generalizing file with
  | nil => exact .stop [] file
  | cons e effects ih =>
    cases e with
    | truncate length => exact .truncated (ih (file.take length))
    | append content => exact .appended (ih (file ++ content))

/-- Changes that only append. -/
def AppendOnly (effects : List FileEffect) : Prop := ∀ e ∈ effects, ∃ content, e = append content

variable {effects : List FileEffect}

lemma AppendOnly.cons {content : Bytes} (h : AppendOnly effects) :
    AppendOnly (append content :: effects) := by
  intro e he
  rcases List.mem_cons.mp he with rfl | he
  · exact ⟨content, rfl⟩
  · exact h e he

lemma AppendOnly.applyAll (h : AppendOnly effects) (file : Bytes) :
    applyAll file effects = file ++ written effects := by
  induction effects generalizing file with
  | nil => simp [FileEffect.applyAll, written]
  | cons e effects ih =>
    obtain ⟨content, rfl⟩ := h e List.mem_cons_self
    have := ih (fun e he => h e (List.mem_cons_of_mem _ he)) (file ++ content)
    simpa [FileEffect.applyAll, apply, written] using this

/-- An interrupted appender leaves a prefix of what it was to append. -/
lemma AppendOnly.interrupted (h : AppendOnly effects)
    {file file' bytes : Bytes} (hi : Interrupted effects file file' bytes) :
    file' = file ++ bytes ∧ bytes <+: written effects := by
  induction hi with
  | stop effects file => exact ⟨(List.append_nil _).symm, List.nil_prefix⟩
  | cut content effects file n =>
    exact ⟨rfl, (List.take_prefix n content).trans (List.prefix_append _ _)⟩
  | truncated rest ih =>
    obtain ⟨content, hc⟩ := h _ List.mem_cons_self
    cases hc
  | @appended content effects file file' bytes rest ih =>
    obtain ⟨hfile, hprefix⟩ := ih fun e he => h e (List.mem_cons_of_mem _ he)
    refine ⟨by rw [hfile, List.append_assoc], ?_⟩
    exact (List.prefix_append_right_inj content).mpr hprefix

end FileEffect

/-- What the operating system does while a journal is written: how many bytes of a view one write
takes, and whether the flush of a truncation and the flush of what was written return. -/
structure Disk where
  write : Bytes → Nat
  flushTruncated : Bool := true
  flushWritten : Bool := true

/-- `osWrite view` bytes of a view are taken by one system call; none at all is an error. The result
is what reached the file, and whether that is everything. -/
def writeAllFd (osWrite : Bytes → Nat) (view : Bytes) : List FileEffect × Bool :=
  if view = [] then ([], true)
  else
    let written := min (osWrite view) view.length
    if written = 0 then ([], false)
    else
      let rest := writeAllFd osWrite (view.drop written)
      (.append (view.take written) :: rest.1, rest.2)
termination_by view.length
decreasing_by
  rw [List.length_drop]
  have := List.length_pos_iff.mpr ‹view ≠ []›
  omega

/-- Everything is written if and only if the write loop ends without an error. -/
lemma writeAllFd_spec (osWrite : Bytes → Nat) (view : Bytes) :
    FileEffect.AppendOnly (writeAllFd osWrite view).1 ∧
      FileEffect.written (writeAllFd osWrite view).1 <+: view ∧
      ((writeAllFd osWrite view).2 = true ↔
        FileEffect.written (writeAllFd osWrite view).1 = view) := by
  fun_induction writeAllFd osWrite view with
  | case1 => simp [FileEffect.AppendOnly, FileEffect.written]
  | case2 view hne written hz => simp [FileEffect.AppendOnly, FileEffect.written, Ne.symm hne]
  | case3 view hne written hz rest ih =>
    obtain ⟨honly, hprefix, hall⟩ := ih
    refine ⟨honly.cons, ?_, ?_⟩
    · calc view.take written ++ FileEffect.written rest.1
        _ <+: view.take written ++ view.drop written :=
          (List.prefix_append_right_inj _).mpr hprefix
        _ = view := List.take_append_drop written view
    · rw [hall]
      simp only [FileEffect.written]
      constructor
      · intro h
        rw [h, List.take_append_drop]
      · intro h
        exact List.append_cancel_left (h.trans (List.take_append_drop written view).symm)

/-- A prefix of a terminated line is either all of it or has no line feed in it. -/
lemma prefix_of_line {line bytes : Bytes} (h : LF ∉ line) (hp : bytes <+: line ++ [LF]) :
    bytes = line ++ [LF] ∨ bytes ≠ line ++ [LF] ∧ LF ∉ bytes := by
  rcases List.prefix_concat_iff.mp hp with rfl | hp
  · exact Or.inl rfl
  · have hlf : LF ∉ bytes := fun hm => h (hp.subset hm)
    exact Or.inr ⟨fun he => hlf (he ▸ by simp), hlf⟩

/-! ### Logs

A log holds one encoded record per line. A writer that finds a torn record at the end drops it
before it appends its own. -/

section Log

variable {ρ : Type*} (encode : ρ → Bytes)

/-- The file that holds exactly these records. -/
def recordLines (records : List ρ) : Bytes := terminated (records.map encode)

lemma recordLines_concat (records : List ρ) (record : ρ) :
    recordLines encode (records ++ [record]) =
      recordLines encode records ++ (encode record ++ [LF]) := by
  simp [recordLines, terminated_concat]

/-- Cut the file to its durable part, if there is more. -/
def truncateTail (data : Bytes) (length : Nat) : List FileEffect :=
  if length ≠ data.length then [.truncate length] else []

lemma applyAll_truncateTail {file kept torn : Bytes} (h : file = kept ++ torn) :
    FileEffect.applyAll file (truncateTail file kept.length) = kept := by
  unfold truncateTail
  split
  · simp [FileEffect.applyAll, FileEffect.apply, h]
  · rename_i hlength
    have htorn : torn = [] := by
      have hl := congrArg List.length h
      rw [not_not] at hlength
      rw [List.length_append, ← hlength] at hl
      exact List.eq_nil_of_length_eq_zero (Nat.left_eq_add.mp hl)
    simp [FileEffect.applyAll, h, htorn]

/-- A writer is stopped before the torn tail is gone, or while it writes after what is kept. -/
lemma interrupted_truncateTail {file kept torn file' bytes : Bytes} (h : file = kept ++ torn)
    {writes : List FileEffect}
    (hi : FileEffect.Interrupted (truncateTail file kept.length ++ writes) file file' bytes) :
    file' = file ∧ bytes = [] ∨ FileEffect.Interrupted writes kept file' bytes := by
  have htruncate := applyAll_truncateTail h
  unfold truncateTail at hi htruncate
  split at hi
  · rename_i hlength
    rw [if_pos hlength] at htruncate
    cases hi with
    | stop => exact Or.inl ⟨rfl, rfl⟩
    | truncated rest =>
      refine Or.inr ?_
      simpa [FileEffect.applyAll, FileEffect.apply] using htruncate ▸ rest
  · rename_i hlength
    rw [if_neg hlength] at htruncate
    exact Or.inr (htruncate ▸ hi)

lemma written_truncateTail (data : Bytes) (length : Nat) (writes : List FileEffect) :
    FileEffect.written (truncateTail data length ++ writes) = FileEffect.written writes := by
  unfold truncateTail
  split <;> rfl

/-- The shape that a log keeps: the lines of its records and a torn tail. -/
structure LogShape (records : List ρ) (torn file : Bytes) : Prop where
  file_eq : file = recordLines encode records ++ torn
  torn_open : LF ∉ torn

/-- The changes of a writer that appends to a log of these records. -/
structure LogWrites (records : List ρ) (file : Bytes) (record : Option ρ)
    (effects writes : List FileEffect) : Prop where
  effects_eq : effects = truncateTail file (recordLines encode records).length ++ writes
  appendOnly : FileEffect.AppendOnly writes
  silent : record = none → writes = []
  written_prefix : ∀ r ∈ record, FileEffect.written writes <+: encode r ++ [LF]

variable {encode} {records : List ρ} {torn file : Bytes}

lemma LogShape.durableLength (h : LogShape encode records torn file) :
    EdaGym.durableLength file = (recordLines encode records).length := by
  rw [h.file_eq]
  exact durableLength_torn _ h.torn_open

lemma LogShape.splitlines (h : LogShape encode records torn file)
    (hclean : ∀ r ∈ records, Clean (encode r)) :
    EdaGym.splitlines (file.take (EdaGym.durableLength file)) = records.map encode := by
  rw [h.durableLength, h.file_eq, List.take_left]
  refine splitlines_terminated fun line hline => ?_
  obtain ⟨record, hrecord, rfl⟩ := List.mem_map.mp hline
  exact hclean record hrecord

/-- An empty log holds no record. -/
lemma LogShape.eq_nil (h : LogShape encode records torn file) (hfile : file = []) :
    records = [] := by
  have hnil : recordLines encode records = [] := (List.append_eq_nil_iff.mp (h.file_eq ▸ hfile)).1
  cases records with
  | nil => rfl
  | cons r rs => simp [recordLines, terminated_cons] at hnil

lemma LogWrites.written_effects {record : Option ρ} {effects writes : List FileEffect}
    (hw : LogWrites encode records file record effects writes) :
    FileEffect.written effects = FileEffect.written writes := by
  rw [hw.effects_eq, written_truncateTail]

/-- A record of which only some bytes are written does not count, and leaves no line feed. -/
lemma LogShape.write {record : ρ} (hlf : LF ∉ encode record) {bytes : Bytes}
    (hp : bytes <+: encode record ++ [LF]) :
    ∃ torn', LogShape encode (records ++ if LF ∈ bytes then [record] else []) torn'
      (recordLines encode records ++ bytes) := by
  rcases prefix_of_line hlf hp with rfl | ⟨-, hopen⟩
  · rw [if_pos (by simp)]
    exact ⟨[], by rw [recordLines_concat, List.append_nil], List.not_mem_nil⟩
  · rw [if_neg hopen, List.append_nil]
    exact ⟨bytes, rfl, hopen⟩

/-- Wherever a writer stops, the log keeps its shape, and its record counts once the line feed is
there. -/
theorem LogShape.step (h : LogShape encode records torn file) {record : Option ρ}
    {effects writes : List FileEffect} (hw : LogWrites encode records file record effects writes)
    (hlf : ∀ r ∈ record, LF ∉ encode r) {file' bytes : Bytes}
    (hi : FileEffect.Interrupted effects file file' bytes) :
    ∃ torn', LogShape encode (records ++ if LF ∈ bytes then record.toList else []) torn' file' := by
  rw [hw.effects_eq] at hi
  rcases interrupted_truncateTail h.file_eq hi with ⟨rfl, rfl⟩ | hi
  · rw [if_neg List.not_mem_nil, List.append_nil]
    exact ⟨torn, h⟩
  obtain ⟨rfl, hp⟩ := hw.appendOnly.interrupted hi
  cases record with
  | none =>
    rw [hw.silent rfl] at hp
    obtain rfl := List.prefix_nil.mp hp
    refine ⟨[], ?_, List.not_mem_nil⟩
    simp
  | some r => exact LogShape.write (hlf r rfl) (hp.trans (hw.written_prefix r rfl))

end Log

end EdaGym
